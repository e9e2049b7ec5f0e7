import BindingTables.Lint.Basic
import BindingTables.Resolve.Accessor

/-! A property whose setter or getter names no method of its class. -/

namespace BindingTables.Lint.MissingAccessor

def message (c : Class) (p : Property) (role declared : String) : String :=
  s!"{role} '{declared}' of property '{c.name}.{p.name}' is not a method of '{c.name}'"

def checkAccessor (severity : Severity) (s : Section) (c : Class) (p : Property) :
    String × Accessor → Option Diagnostic
  | (role, .missing declared) =>
    some (report severity (message c p role declared) s!"{s.key}.{c.name}.properties.{p.name}")
  | _ => none

def checkClass (severity : Severity) (s : Section) (c : Class) : List Diagnostic :=
  c.properties.flatMap fun p => (p.accessorsIn c).filterMap (checkAccessor severity s c p)

def check (api : Api) (options : Options) : List Diagnostic :=
  let severity := if options.strictAccessors then .error else .warning
  (options.boundClasses api).flatMap fun (s, c) => checkClass severity s c

end MissingAccessor

def missingAccessor : Lint where
  name := "missing-accessor"
  description := "Check property setters and getters name a method of their class"
  check := MissingAccessor.check

end BindingTables.Lint

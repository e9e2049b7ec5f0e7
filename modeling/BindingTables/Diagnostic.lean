import BindingTables.Json.Writing

/-! Remarks on the API, collected while it is compiled into bindings. -/

namespace BindingTables

inductive Severity
  | error
  | warning
  | info
deriving DecidableEq

def Severity.name : Severity → String
  | error => "error"
  | warning => "warning"
  | info => "info"

structure Diagnostic where
  severity : Severity
  phase : String
  message : String
  location : Option String
deriving DecidableEq

namespace Diagnostic

def isError (d : Diagnostic) : Bool := d.severity = .error

def isWarning (d : Diagnostic) : Bool := d.severity = .warning

def render (d : Diagnostic) : String :=
  match d.location with
  | none => s!"{d.severity.name}: {d.message}"
  | some place => s!"{d.severity.name}: {d.message} (at {place})"

def toJson (d : Diagnostic) : Json.Value :=
  let place := d.location.toList.map fun s => ("location", Json.Value.text s)
  .object ([("severity", .text d.severity.name), ("phase", .text d.phase),
    ("message", .text d.message)] ++ place)

end Diagnostic

end BindingTables

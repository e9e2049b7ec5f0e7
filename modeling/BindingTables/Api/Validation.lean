import BindingTables.Api.Reading
import BindingTables.InputError

/-! The structure that a dump must have: enums hold values, and class names are unique. -/

namespace BindingTables.Api

/-- A dotted place in the dump. -/
def location (path : List String) : String := ".".intercalate path

def enumPath (s : Section) (c : Class) : List String := [s.key, c.name, "enums"]

/-- The first flaw of a dump, without its place in the text. -/
inductive Flaw
  | emptyEnum (name : String) (path : List String)
  | duplicateClass (name : String)
deriving DecidableEq

def enumFlaw? (path : List String) (e : Enum) : Option Flaw :=
  if e.values.isEmpty then some (.emptyEnum e.name path) else none

/-- Classes are checked in order: first that the name is new, then the enums. -/
def classFlaw? (seen : List String) : List (Section × Class) → Option Flaw
  | [] => none
  | (s, c) :: rest =>
    if seen.contains c.name then some (.duplicateClass c.name)
    else
      match c.enums.findSome? (enumFlaw? (enumPath s c)) with
      | some flaw => some flaw
      | none => classFlaw? (c.name :: seen) rest

def flaw? (api : Api) : Option Flaw :=
  match api.globalEnums.findSome? (enumFlaw? ["global_enums"]) with
  | some flaw => some flaw
  | none => classFlaw? [] api.sectionedClasses

/-- A flaw as an error, with the places where the source declares the name. -/
def Flaw.toError (file source : String) : Flaw → InputError
  | emptyEnum name path => .emptyEnum file name (location path) (declaration? source name 0)
  | duplicateClass name =>
    .duplicateClass file name (declaration? source name 0) (declaration? source name 1)

/-- Checks what the dump in the file named `file` declares. -/
def validate (file source : String) (api : Api) : Except InputError Unit :=
  match api.flaw? with
  | some flaw => .error (flaw.toError file source)
  | none => .ok ()

/-- Reads and checks a dump that stands in the file named `file`. -/
def parse (file source : String) : Except InputError Api :=
  match ofJson source with
  | .error e => .error (.ofReadError file source.toList e)
  | .ok api => (api.validate file source).map fun () => api

end BindingTables.Api

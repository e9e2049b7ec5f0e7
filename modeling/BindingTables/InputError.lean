import BindingTables.Json.Fault
import BindingTables.Span

/-! What can be wrong with the files that the program reads. -/

namespace BindingTables

/-- Why a settings file is refused. -/
inductive SettingsFault
  | syntactic
  | invalid (cause : String) (span : Span)
deriving DecidableEq

inductive InputError
  | unreadable (path : String)
  | malformedApi (file : String) (cause : Json.ReadError) (span : Option Span)
  | malformedSettings (file : String) (cause : SettingsFault)
  | emptyEnum (file name location : String) (span : Option Span)
  | duplicateClass (file name : String) (first second : Option Span)

namespace InputError

def message : InputError → String
  | unreadable path => s!"failed to read '{path}'"
  | malformedApi .. => "failed to parse extension API"
  | malformedSettings .. => "failed to parse config"
  | emptyEnum _ name location _ => s!"enum '{name}' in {location} has no values"
  | duplicateClass _ name _ _ => s!"class '{name}' is declared more than once"

def code? : InputError → Option String
  | unreadable _ => none
  | malformedApi .. => some "luagd::parse_error"
  | malformedSettings .. => some "luagd::config_error"
  | emptyEnum .. => some "luagd::empty_enum"
  | duplicateClass .. => some "luagd::duplicate_class"

def help? : InputError → Option String
  | unreadable _ =>
    some "dump the API with 'godot --headless --dump-extension-api' or pass --api <path>"
  | emptyEnum .. => some "an enum needs at least one value to derive its prefix from"
  | duplicateClass .. => some "class names must be unique across builtin_classes and classes"
  | _ => none

def label (text : String) (span : Option Span) : List (String × Span) :=
  span.toList.map (text, ·)

/-- The marked places of the source, each with its text. -/
def labels : InputError → List (String × Span)
  | unreadable _ => []
  | malformedApi _ _ span => label "parse error here" span
  | malformedSettings _ (.invalid _ span) => label "parse error here" (some span)
  | malformedSettings _ .syntactic => []
  | emptyEnum _ _ _ span => label "declared here" span
  | duplicateClass _ _ first second =>
    label "first declared here" first ++ label "declared again here" second

end InputError

/-- The byte offset of the first character that is on line `line` or later and in column `column`
or later, both counted in characters from one; `here` counts from zero. -/
def characterOffset (line column : Nat) : (here : Nat × Nat) → List Char → Nat
  | _, [] => 0
  | here, c :: cs =>
    if line ≤ here.1 + 1 ∧ column ≤ here.2 + 1 then 0
    else if c = '\n' then 1 + characterOffset line column (here.1 + 1, 0) cs
    else c.utf8Size + characterOffset line column (here.1, here.2 + 1) cs

/-- A malformed dump, marked where its fault is reported. -/
def InputError.ofReadError (file : String) (source : List Char) (e : Json.ReadError) :
    InputError :=
  .malformedApi file e
    (e.place.map fun place => ⟨characterOffset place.line place.column (0, 0) source, 1⟩)

end BindingTables

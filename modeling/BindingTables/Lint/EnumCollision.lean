import BindingTables.Bindings.Lowering
import BindingTables.Lint.Basic

/-! Enum values that lose their name, or share it, once the stem is gone. -/

namespace BindingTables.Lint.EnumCollision

def bareMessage (e : Enum) (value : String) : String :=
  s!"value '{value}' of enum '{e.name}' is only its prefix and has no name of its own"

def clashMessage (e : Enum) (first value stripped : String) : String :=
  s!"values '{first}' and '{value}' of enum '{e.name}' both bind as '{stripped}'"

/-- Goes through the values; `seen` pairs each stripped name with the first value that has it. -/
def checkValues (e : Enum) (stem location : String) (seen : List (String × String)) :
    List String → List Diagnostic
  | [] => []
  | value :: rest =>
    if stem ≠ "" ∧ value = stem then
      report .error (bareMessage e value) location :: checkValues e stem location seen rest
    else
      let stripped := Stem.strip stem value
      match seen.lookup stripped with
      | some first =>
        report .error (clashMessage e first value stripped) location
          :: checkValues e stem location seen rest
      | none => checkValues e stem location ((stripped, value) :: seen) rest

def checkEnum (parent : String) (e : Enum) : List Diagnostic :=
  checkValues e e.stem s!"{parent}.{e.name}" [] e.valueNames

def check (api : Api) (options : Options) : List Diagnostic :=
  api.globalEnums.flatMap (checkEnum "global_enums")
    ++ (options.boundClasses api).flatMap fun (s, c) =>
      c.enums.flatMap (checkEnum s!"{s.key}.{c.name}.enums")

end EnumCollision

def enumCollision : Lint where
  name := "enum-collision"
  description := "Check stripped enum value names are unique within their enum"
  check := EnumCollision.check

end BindingTables.Lint

import Mathlib.Data.List.Forall2
import BindingTables.Bindings.Lowering

/-! The classes of the tables are the bound classes of the API, in their order. -/

namespace BindingTables

variable {api : Api} {o : Options}

/-- The kind that the classes of a section are lowered to. -/
def Section.kind : Section → ClassKind
  | builtin => .builtin
  | engine => .object

/-- Where a dump declares a class of the section. -/
def Section.pathOf (s : Section) (className : String) : String :=
  match s with
  | builtin => s!"builtin_classes.{className}"
  | engine => s!"classes.{className}"

theorem Section.pathOf_eq (s : Section) (className : String) :
    s.pathOf className = s!"{s.key}.{className}" := by
  have hbuiltin : "builtin_classes." = builtin.key ++ "." := by decide
  have hengine : "classes." = engine.key ++ "." := by decide
  cases s with
  | builtin => exact congrArg (· ++ className) hbuiltin
  | engine => exact congrArg (· ++ className) hengine

namespace Options

theorem boundClasses_eq : o.boundClasses api =
    (api.builtinClasses.filter (!o.skips ·.name)).map (Section.builtin, ·)
      ++ (api.classes.filter (!o.skips ·.name)).map (Section.engine, ·) := by
  rw [boundClasses, Api.sectionedClasses, List.filter_append, List.filter_map, List.filter_map]
  rfl

end Options

namespace Api

theorem allClasses_lower :
    (api.lower o).allClasses = (o.boundClasses api).map fun (s, c) => c.lower api s.kind := by
  rw [Options.boundClasses_eq, List.map_append, List.map_map, List.map_map]
  rfl

/-- What each bound class shares with its table holds along both lists. -/
theorem forall₂_allClasses_lower {R : Section × Class → ClassBinding → Prop}
    (h : ∀ c ∈ o.boundClasses api, R c (c.2.lower api c.1.kind)) :
    List.Forall₂ R (o.boundClasses api) (api.lower o).allClasses := by
  rw [allClasses_lower, List.forall₂_map_right_iff, List.forall₂_same]
  exact h

end Api

end BindingTables

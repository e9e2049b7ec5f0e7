import BindingTables.Bindings.Lowering

/-! Counts of what was bound and what was left out. -/

namespace BindingTables

structure Statistics where
  builtinClasses : Nat
  classes : Nat
  skippedClasses : Nat
  methods : Nat
  skippedMethods : Nat
  operators : Nat
  droppedOperators : Nat
  properties : Nat
  missingAccessors : Nat
  enums : Nat
  enumValues : Nat
  singletons : Nat
  utilities : Nat
deriving DecidableEq

/-- There is no count below zero. -/
def difference? (a b : Nat) : Option Nat := if b ≤ a then some (a - b) else none

theorem difference?_eq_some_iff {a b n : Nat} : difference? a b = some n ↔ b + n = a := by
  rw [difference?]
  split
  · rw [Option.some.injEq]
    omega
  · simp only [reduceCtorEq, false_iff]
    omega

theorem exists_difference?_iff {a b : Nat} : (∃ n, difference? a b = some n) ↔ b ≤ a := by
  simp only [difference?_eq_some_iff]
  exact ⟨fun ⟨n, h⟩ => h ▸ Nat.le_add_right b n, fun h => ⟨a - b, Nat.add_sub_cancel' h⟩⟩

def total : List Nat → Nat
  | [] => 0
  | n :: ns => n + total ns

theorem length_flatMap_eq_total {α β : Type} (f : α → List β) (as : List α) :
    (as.flatMap f).length = total (as.map fun a => (f a).length) := by
  induction as with
  | nil => rfl
  | cons a as ih => rw [List.flatMap_cons, List.length_append, ih, List.map_cons, total]

/-- How many accessors of the class are declared and name no method. -/
def Class.missingAccessors (c : Class) : Nat :=
  total (c.properties.map fun p => (p.accessorsIn c).countP (·.2.isMissing))

namespace Statistics

/-- Counts the tables `b` against the classes of the API that the options bind. Tables that hold
more than these declare have no statistics. -/
def compute? (api : Api) (options : Options) (b : Bindings) : Option Statistics := do
  let bound := (options.boundClasses api).map (·.2)
  let declared := api.builtinClasses.length + api.classes.length
  let methods := total (b.allClasses.map (·.methods.length))
  let operators := total (b.allClasses.map (·.operators.length))
  let skippedClasses ← difference? declared (b.builtinClasses.length + b.classes.length)
  let skippedMethods ← difference? (total (bound.map (·.methods.length))) methods
  let droppedOperators ← difference? (total (bound.map (·.operators.length))) operators
  return {
    builtinClasses := b.builtinClasses.length
    classes := b.classes.length
    skippedClasses
    methods
    skippedMethods
    operators
    droppedOperators
    properties := total (b.allClasses.map (·.properties.length))
    missingAccessors := total (bound.map Class.missingAccessors)
    enums := b.allEnums.length
    enumValues := total (b.allEnums.map (·.values.length))
    singletons := total (b.allClasses.map (·.singletons.length))
    utilities := b.utilities.length }

end Statistics

end BindingTables

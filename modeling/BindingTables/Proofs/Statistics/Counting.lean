import Mathlib.Algebra.Order.BigOperators.Group.List
import Mathlib.Algebra.Order.Group.Nat
import Mathlib.Algebra.Ring.Nat
import BindingTables.Proofs.Bindings.Classes
import BindingTables.Statistics

/-! When tables have statistics, and what these count. Tables that the options themselves lead to
always have them. -/

namespace BindingTables

variable {api : Api} {o : Options} {b : Bindings} {s : Statistics}

theorem total_eq_sum (ns : List Nat) : total ns = ns.sum := by
  induction ns with
  | nil => rfl
  | cons n ns ih => rw [total, ih, List.sum_cons]

namespace Options

/-- What the bound classes declare in all, counted class by class. -/
def declared (o : Options) (api : Api) (count : Class → Nat) : Nat :=
  total (((o.boundClasses api).map (·.2)).map count)

theorem declared_mono {f g : Class → Nat} (h : ∀ c, f c ≤ g c) :
    o.declared api f ≤ o.declared api g := by
  simp only [declared, total_eq_sum]
  exact List.sum_le_sum fun c _ => h c

end Options

namespace Statistics

/-- None of the differences that the statistics take of the tables is less than zero. -/
structure InRange (api : Api) (o : Options) (b : Bindings) : Prop where
  classes : b.builtinClasses.length + b.classes.length
    ≤ api.builtinClasses.length + api.classes.length
  methods : total (b.allClasses.map (·.methods.length)) ≤ o.declared api (·.methods.length)
  operators : total (b.allClasses.map (·.operators.length)) ≤ o.declared api (·.operators.length)

/-- The statistics count what the tables hold, and what is declared besides. -/
structure Counts (s : Statistics) (api : Api) (o : Options) (b : Bindings) : Prop where
  builtinClasses : s.builtinClasses = b.builtinClasses.length
  classes : s.classes = b.classes.length
  skippedClasses : s.builtinClasses + s.classes + s.skippedClasses
    = api.builtinClasses.length + api.classes.length
  methods : s.methods = total (b.allClasses.map (·.methods.length))
  skippedMethods : s.methods + s.skippedMethods = o.declared api (·.methods.length)
  operators : s.operators = total (b.allClasses.map (·.operators.length))
  droppedOperators : s.operators + s.droppedOperators = o.declared api (·.operators.length)
  properties : s.properties = total (b.allClasses.map (·.properties.length))
  missingAccessors : s.missingAccessors = o.declared api Class.missingAccessors
  enums : s.enums = b.allEnums.length
  enumValues : s.enumValues = total (b.allEnums.map (·.values.length))
  singletons : s.singletons = total (b.allClasses.map (·.singletons.length))
  utilities : s.utilities = b.utilities.length

theorem compute?_eq_some_iff : compute? api o b = some s ↔ s.Counts api o b := by
  simp only [compute?, Option.bind_eq_bind, Option.bind_eq_some_iff, difference?_eq_some_iff,
    Option.pure_def, Option.some.injEq]
  constructor
  · rintro ⟨skipped, hclasses, methods, hmethods, operators, hoperators, rfl⟩
    exact ⟨rfl, rfl, hclasses, rfl, hmethods, rfl, hoperators, rfl, rfl, rfl, rfl, rfl, rfl⟩
  · intro h
    obtain ⟨_, _, skipped, _, methods, _, operators, _, _, _, _, _, _⟩ := s
    obtain ⟨rfl, rfl, hclasses, rfl, hmethods, rfl, hoperators, rfl, rfl, rfl, rfl, rfl, rfl⟩ := h
    exact ⟨skipped, hclasses, methods, hmethods, operators, hoperators, rfl⟩

/-- Tables have statistics exactly if no difference is less than zero. -/
theorem exists_compute?_iff : (∃ s, compute? api o b = some s) ↔ InRange api o b := by
  constructor
  · rintro ⟨s, h⟩
    have hs := compute?_eq_some_iff.mp h
    refine ⟨?_, ?_, ?_⟩
    · rw [← hs.builtinClasses, ← hs.classes, ← hs.skippedClasses]
      exact Nat.le_add_right _ _
    · rw [← hs.methods, ← hs.skippedMethods]
      exact Nat.le_add_right _ _
    · rw [← hs.operators, ← hs.droppedOperators]
      exact Nat.le_add_right _ _
  · intro h
    obtain ⟨skipped, hclasses⟩ := exists_difference?_iff.mpr h.classes
    obtain ⟨methods, hmethods⟩ := exists_difference?_iff.mpr h.methods
    obtain ⟨operators, hoperators⟩ := exists_difference?_iff.mpr h.operators
    simp only [Options.declared] at hmethods hoperators
    exact ⟨_, by simp only [compute?, hclasses, hmethods, hoperators]; rfl⟩

end Statistics

namespace Api

/-- A count over the tables is one over the bound classes. -/
theorem total_allClasses_lower {f : ClassBinding → Nat} {g : Class → Nat}
    (h : ∀ kind c, f (Class.lower api kind c) = g c) :
    total ((api.lower o).allClasses.map f) = o.declared api g := by
  rw [allClasses_lower, List.map_map, Options.declared, List.map_map]
  congr 1
  apply List.map_congr_left
  intro c _
  exact h c.1.kind c.2

theorem total_methods_lower : total ((api.lower o).allClasses.map (·.methods.length))
    = o.declared api (·.bindableMethods.length) :=
  total_allClasses_lower fun _ _ => List.length_map _

theorem total_operators_lower : total ((api.lower o).allClasses.map (·.operators.length))
    = o.declared api fun c => (Operator.resolve c.name c.operators).length :=
  total_allClasses_lower fun _ _ => List.length_map _

theorem length_lowerClasses_le (kind : ClassKind) (cs : List Class) :
    (api.lowerClasses o kind cs).length ≤ cs.length := by
  rw [lowerClasses, List.length_map]
  exact List.length_filter_le _ cs

end Api

namespace Statistics

theorem classes_lower_le (api : Api) (o : Options) :
    (api.lower o).builtinClasses.length + (api.lower o).classes.length
      ≤ api.builtinClasses.length + api.classes.length :=
  Nat.add_le_add (Api.length_lowerClasses_le _ _) (Api.length_lowerClasses_le _ _)

/-- The tables that the options themselves lead to are counted without loss. -/
theorem inRange_lower (api : Api) (o : Options) : InRange api o (api.lower o) := by
  refine ⟨classes_lower_le api o, ?_, ?_⟩
  · rw [Api.total_methods_lower]
    exact Options.declared_mono fun c => List.length_filter_le _ c.methods
  · rw [Api.total_operators_lower]
    exact Options.declared_mono fun c => Operator.length_resolve_le c.name c.operators

theorem exists_compute?_lower (api : Api) (o : Options) :
    ∃ s, compute? api o (api.lower o) = some s :=
  exists_compute?_iff.mpr (inRange_lower api o)

end Statistics

end BindingTables

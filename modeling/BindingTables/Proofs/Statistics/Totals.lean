import BindingTables.Proofs.Classes.Skipping
import BindingTables.Proofs.Enums.Collision

/-! Statistics add up: what the tables hold and what was left out of them make up what the API
declares. -/

namespace BindingTables

variable {api : Api} {o : Options} {c : Class}

namespace Options

theorem declared_add (f g : Class → Nat) :
    o.declared api (fun c => f c + g c) = o.declared api f + o.declared api g := by
  simp only [declared, total_eq_sum, List.sum_map_add]

end Options

namespace Class

/-- How many methods of the class are virtual, or are bound by hand on the root class. -/
def unboundMethods (c : Class) : Nat :=
  c.methods.countP fun m => m.isVirtual ∨ c.name = rootClass ∧ m.name ∈ handBound

/-- Each method is either bound or left out. -/
theorem bindable_add_unbound (c : Class) :
    c.bindableMethods.length + c.unboundMethods = c.methods.length := by
  have hskip : c.unboundMethods = c.methods.countP (·.isSkipped c.name) := by
    apply List.countP_congr
    intro m _
    simp [Method.isSkipped]
  have hsplit := List.length_eq_countP_add_countP (·.isSkipped c.name) (l := c.methods)
  rw [bindableMethods, ← List.countP_eq_length_filter, hskip, Nat.add_comm]
  simpa using hsplit.symm

end Class

namespace Api

theorem total_properties_lower : total ((api.lower o).allClasses.map (·.properties.length))
    = o.declared api (·.properties.length) :=
  total_allClasses_lower fun _ _ => List.length_map _

theorem allEnums_lower : (api.lower o).allEnums = (o.boundEnums api).map (·.2.lower) := by
  have hclass : (api.lower o).allClasses.flatMap (·.enums)
      = (o.boundClasses api).flatMap fun c => c.2.enums.map Enum.lower := by
    rw [allClasses_lower, List.flatMap_map]
    rfl
  rw [Bindings.allEnums, hclass, Options.boundEnums, List.map_append, List.map_map,
    List.map_flatMap]
  simp only [List.map_map]
  rfl

end Api

namespace Statistics

/-- The counts make up what the API declares and the options bind. -/
structure AddUp (api : Api) (o : Options) (s : Statistics) : Prop where
  classes : s.builtinClasses + s.classes + s.skippedClasses
    = api.builtinClasses.length + api.classes.length
  skippedClasses : s.skippedClasses = api.countNamed o.skipClasses
  methods : s.methods + s.skippedMethods = o.declared api (·.methods.length)
  skippedMethods : s.skippedMethods = o.declared api (·.unboundMethods)
  operators : s.operators + s.droppedOperators = o.declared api (·.operators.length)
  properties : s.properties = o.declared api (·.properties.length)
  enums : s.enums = (o.boundEnums api).length
  enumValues : s.enumValues = total ((o.boundEnums api).map (·.2.values.length))

theorem addUp_of_counts {s : Statistics} (h : s.Counts api o (api.lower o)) : AddUp api o s := by
  have hunbound : total ((api.lower o).allClasses.map (·.methods.length))
      + o.declared api (·.unboundMethods) = o.declared api (·.methods.length) := by
    rw [Api.total_methods_lower, ← Options.declared_add]
    simp only [Class.bindable_add_unbound]
  refine ⟨h.skippedClasses, skippedClasses_lower h, h.skippedMethods, ?_, h.droppedOperators,
    h.properties.trans Api.total_properties_lower, ?_, ?_⟩
  -- Together with the bound methods, either count comes to those declared.
  · rw [← h.methods] at hunbound
    exact Nat.add_left_cancel (h.skippedMethods.trans hunbound.symm)
  · rw [h.enums, Api.allEnums_lower, List.length_map]
  · rw [h.enumValues, Api.allEnums_lower, List.map_map]
    congr 1
    apply List.map_congr_left
    intro e _
    exact List.length_map _

end Statistics

/-- The tables hold each property, enum and enum value that the options bind, in its place. -/
structure Bindings.DropsNone (api : Api) (o : Options) (b : Bindings) : Prop where
  properties : List.Forall₂ (fun c t => t.name = c.2.name ∧
    t.properties.map (·.name) = c.2.properties.map (·.name)) (o.boundClasses api) b.allClasses
  enums : List.Forall₂ (fun e t => t.name = Identifier.canonicalEnum e.2.name ∧
    t.values.map (fun v => (v.name, v.value)) = e.2.values.map fun v => (v.name, v.value))
    (o.boundEnums api) b.allEnums

theorem Api.dropsNone_lower (api : Api) (o : Options) : (api.lower o).DropsNone api o := by
  refine ⟨forall₂_allClasses_lower ?_, ?_⟩
  · intro c _
    refine ⟨rfl, ?_⟩
    rw [Class.lower, List.map_map]
    rfl
  · rw [allEnums_lower, List.forall₂_map_right_iff, List.forall₂_same]
    intro e _
    refine ⟨rfl, ?_⟩
    rw [Enum.lower, List.map_map]
    rfl

/-- The tables that the options lead to have statistics, since no difference is less than zero.
These make up all that the API declares, of tables that drop no property, enum or enum value. -/
theorem statistics_add_up (api : Api) (o : Options) :
    Statistics.InRange api o (api.lower o) ∧
      (∃ s, Statistics.compute? api o (api.lower o) = some s ∧ Statistics.AddUp api o s) ∧
      (api.lower o).DropsNone api o := by
  obtain ⟨s, hs⟩ := Statistics.exists_compute?_lower api o
  exact ⟨Statistics.inRange_lower api o,
    ⟨s, hs, Statistics.addUp_of_counts (Statistics.compute?_eq_some_iff.mp hs)⟩,
    Api.dropsNone_lower api o⟩

end BindingTables

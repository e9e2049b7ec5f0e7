import BindingTables.Proofs.Bindings.Classes
import BindingTables.Proofs.Pipeline.Plain

/-! Skipping classes and deleting them from the API lead to the same run, up to the count of the
classes that were left out. -/

namespace BindingTables

open Lint

variable {σ : Type} {api : Api} {names : List String} {strict : Bool}

namespace Api

/-- The API without the classes that the list names. -/
def without (api : Api) (names : List String) : Api :=
  { api with
    builtinClasses := api.builtinClasses.filter (·.name ∉ names)
    classes := api.classes.filter (·.name ∉ names) }

/-- How many classes of the API the list names. -/
def countNamed (api : Api) (names : List String) : Nat :=
  (api.builtinClasses ++ api.classes).countP (·.name ∈ names)

end Api

theorem Options.not_skips_eq (c : Class) :
    (!(⟨names, strict⟩ : Options).skips c.name) = decide (c.name ∉ names) := by
  simp [skips]

theorem Options.filter_skips (cs : List Class) :
    cs.filter (!(⟨names, strict⟩ : Options).skips ·.name) = cs.filter (·.name ∉ names) :=
  List.filter_congr fun c _ => not_skips_eq c

/-- With nothing to skip all classes are bound. -/
theorem Options.filter_skips_nil (cs : List Class) :
    cs.filter (!(⟨[], strict⟩ : Options).skips ·.name) = cs := by
  rw [filter_skips, List.filter_eq_self]
  simp

theorem Options.boundClasses_without :
    (⟨[], strict⟩ : Options).boundClasses (api.without names)
      = (⟨names, strict⟩ : Options).boundClasses api := by
  rw [boundClasses_eq, boundClasses_eq, filter_skips_nil, filter_skips_nil, filter_skips,
    filter_skips]
  rfl

/-! The lints read the classes only through those that are bound. -/

theorem Lint.missingAccessor_without : missingAccessor.check (api.without names) ⟨[], strict⟩
    = missingAccessor.check api ⟨names, strict⟩ := by
  change MissingAccessor.check _ _ = MissingAccessor.check _ _
  rw [MissingAccessor.check, MissingAccessor.check, Options.boundClasses_without]

theorem Lint.enumCollision_without : enumCollision.check (api.without names) ⟨[], strict⟩
    = enumCollision.check api ⟨names, strict⟩ := by
  change EnumCollision.check _ _ = EnumCollision.check _ _
  rw [EnumCollision.check, EnumCollision.check, Options.boundClasses_without]
  rfl

theorem Lint.findings_without (api : Api) (names : List String) (strict : Bool) :
    findings (api.without names) ⟨[], strict⟩ = findings api ⟨names, strict⟩ := by
  simp only [findings, Lint.standard, List.flatMap_cons, missingAccessor_without,
    enumCollision_without]
  rfl

theorem Api.lowerClasses_without (api : Api) (names : List String) (strict : Bool)
    (kind : ClassKind) (cs : List Class) :
    (api.without names).lowerClasses ⟨[], strict⟩ kind (cs.filter (·.name ∉ names))
      = api.lowerClasses ⟨names, strict⟩ kind cs := by
  rw [lowerClasses, lowerClasses, Options.filter_skips_nil, Options.filter_skips]
  rfl

theorem Api.lower_without : (api.without names).lower ⟨[], strict⟩ = api.lower ⟨names, strict⟩ := by
  have hbuiltin := lowerClasses_without api names strict .builtin api.builtinClasses
  have hengine := lowerClasses_without api names strict .object api.classes
  simp only [lower, Bindings.mk.injEq]
  exact ⟨rfl, hbuiltin, hengine, rfl, rfl⟩

/-! The statistics also read how many classes are declared, for one of their counts. -/

theorem Options.declared_without (count : Class → Nat) :
    (⟨[], strict⟩ : Options).declared (api.without names) count
      = (⟨names, strict⟩ : Options).declared api count := by
  rw [declared, declared, boundClasses_without]

namespace Statistics

variable {b : Bindings} {s : Statistics} {skipped : Nat}

/-- Statistics without skipped classes become those with them by that count alone. -/
theorem counts_of_without (h : s.Counts (api.without names) ⟨[], strict⟩ b)
    (hskipped : api.builtinClasses.length + api.classes.length
      = skipped + (b.builtinClasses.length + b.classes.length)) :
    Counts { s with skippedClasses := skipped } api ⟨names, strict⟩ b :=
  { h with
    skippedClasses := by
      rw [hskipped, Nat.add_comm skipped]
      exact congrArg (· + skipped) (congrArg₂ (· + ·) h.builtinClasses h.classes)
    skippedMethods := h.skippedMethods.trans (Options.declared_without _)
    droppedOperators := h.droppedOperators.trans (Options.declared_without _)
    missingAccessors := h.missingAccessors.trans (Options.declared_without _) }

theorem length_lowerClasses (api : Api) (names : List String) (strict : Bool) (kind : ClassKind)
    (cs : List Class) : cs.length = cs.countP (·.name ∈ names)
      + (api.lowerClasses ⟨names, strict⟩ kind cs).length := by
  have hkept : (cs.filter (·.name ∉ names)).length = cs.countP (¬ ·.name ∈ names) := by
    rw [List.countP_eq_length_filter]
  rw [Api.lowerClasses, List.length_map, Options.filter_skips, hkept]
  simpa using List.length_eq_countP_add_countP (·.name ∈ names) (l := cs)

/-- No class is bound twice, and none is both bound and skipped. -/
theorem declared_eq_named_add_bound (api : Api) (names : List String) (strict : Bool) :
    api.builtinClasses.length + api.classes.length = api.countNamed names
      + ((api.lower ⟨names, strict⟩).builtinClasses.length
        + (api.lower ⟨names, strict⟩).classes.length) := by
  have hbuiltin := length_lowerClasses api names strict .builtin api.builtinClasses
  have hengine := length_lowerClasses api names strict .object api.classes
  rw [Api.countNamed, List.countP_append]
  simp only [Api.lower]
  omega

theorem skippedClasses_lower
    (h : s.Counts api ⟨names, strict⟩ (api.lower ⟨names, strict⟩)) :
    s.skippedClasses = api.countNamed names := by
  have hsum := declared_eq_named_add_bound api names strict
  have hcount := h.skippedClasses
  rw [h.builtinClasses, h.classes] at hcount
  omega

end Statistics

theorem Api.countNamed_nil : api.countNamed [] = 0 := by
  simp [countNamed]

/-- The two runs agree in all but the count of the classes that were left out. -/
structure AgreeButSkipped (skipped : Nat) (x y : Run σ × Except Failure Unit) : Prop where
  outcome : x.2 = y.2
  diagnostics : x.1.context.diagnostics = y.1.context.diagnostics
  bindings : x.1.context.bindings = y.1.context.bindings
  statistics : x.1.context.statistics
    = y.1.context.statistics.map fun s => { s with skippedClasses := skipped }
  none_skipped : ∀ s ∈ y.1.context.statistics, s.skippedClasses = 0

/-- Skipping the classes of a list is the same as deleting them from the API. -/
theorem skipping_agrees_with_deleting (api : Api) (names : List String) (strict : Bool)
    (record : σ) : AgreeButSkipped (api.countNamed names)
      ((Pipeline.plain ⟨names, strict⟩).runCollecting api record)
      ((Pipeline.plain ⟨[], strict⟩).runCollecting (api.without names) record) := by
  have hfindings := findings_without api names strict
  have herrors : (Context.linted (api.without names) ⟨[], strict⟩).hasErrors
      = (Context.linted api ⟨names, strict⟩).hasErrors := by
    rw [Context.hasErrors_linted, Context.hasErrors_linted, hfindings]
  have hcount : (Context.linted (api.without names) ⟨[], strict⟩).errors
      = (Context.linted api ⟨names, strict⟩).errors := by
    simp only [Context.errors, Context.linted, hfindings]
  obtain ⟨s, hnone⟩ := Statistics.exists_compute?_lower (api.without names) ⟨[], strict⟩
  have hs := Statistics.compute?_eq_some_iff.mp hnone
  have hall := Statistics.compute?_eq_some_iff.mpr (Statistics.counts_of_without
    (Api.lower_without ▸ hs) (Statistics.declared_eq_named_add_bound api names strict))
  rw [Pipeline.runCollecting_plain, Pipeline.runCollecting_plain, herrors, hcount]
  split
  · exact ⟨rfl, hfindings.symm, rfl, rfl, by simp [Context.linted]⟩
  · refine ⟨rfl, hfindings.symm, ?_, ?_, ?_⟩
    · exact congrArg some Api.lower_without.symm
    · simp only [Context.finished, hall, hnone, Option.map_some]
    · intro t ht
      obtain rfl : s = t := Option.some.inj (hnone.symm.trans ht)
      exact (Statistics.skippedClasses_lower hs).trans Api.countNamed_nil

end BindingTables

import Mathlib.Data.List.Nodup
import BindingTables.Lint.UtilityAllowList
import BindingTables.Proofs.Statistics.Counting

/-! Each allowed utility function is either bound or reported as missing, by whether the API
declares it. -/

namespace BindingTables

variable {api : Api} {o : Options} {u : Utility} {b : UtilityBinding} {f : UtilityFunction}
  {name : String}

namespace Utility

/-- The engine's names of the functions that scripts should get. -/
def allowedNames : List String := allowList.map (·.name)

theorem allowedNames_nodup : allowedNames.Nodup := by decide

theorem scriptNames_nodup : (allowList.map scriptName).Nodup := by decide

end Utility

namespace Api

def DeclaresUtility (api : Api) (name : String) : Prop :=
  ∃ f ∈ api.utilityFunctions, f.name = name

/-- The function is the first of the name in the API. -/
def FirstUtility (api : Api) (name : String) (f : UtilityFunction) : Prop :=
  ∃ before after, api.utilityFunctions = before ++ f :: after ∧ f.name = name ∧
    ∀ g ∈ before, g.name ≠ name

theorem utility?_eq_some_iff : api.utility? name = some f ↔ api.FirstUtility name f := by
  rw [utility?, List.find?_eq_some_iff_append, FirstUtility]
  simp only [decide_eq_true_eq, Bool.not_eq_true', decide_eq_false_iff_not]
  constructor
  · rintro ⟨hname, before, after, hsplit, hbefore⟩
    exact ⟨before, after, hsplit, hname, hbefore⟩
  · rintro ⟨before, after, hsplit, hname, hbefore⟩
    exact ⟨hname, before, after, hsplit, hbefore⟩

theorem isSome_utility?_iff : (api.utility? name).isSome = true ↔ api.DeclaresUtility name := by
  simp [utility?, DeclaresUtility]

end Api

/-- The warning that the API declares no function of this name. -/
def Lint.UtilityAllowList.absence (name : String) : Diagnostic where
  severity := .warning
  phase := "validate"
  message := "utility function '" ++ name ++ "' is not declared by the API"
  location := some "utility_functions"

namespace Lint.UtilityAllowList

/-- A warning tells the function that it is about. -/
theorem absence_injective : Function.Injective absence := by
  intro a b h
  have hmessage := congrArg (fun d => d.message.toList) h
  simpa [absence, String.toList_inj] using hmessage

theorem warning_eq (u : Utility) : warning u = absence u.name := rfl

/-- The allowed functions that the API does not declare. -/
def reported (api : Api) : List String :=
  (Utility.allowList.filter fun u => !(api.utility? u.name).isSome).map (·.name)

theorem check_eq (api : Api) (o : Options) : check api o = (reported api).map absence := by
  simp [check, reported, warning_eq, Function.comp_def]

theorem check_eq_iff (api : Api) (o : Options) {names : List String} :
    check api o = names.map absence ↔ names = reported api := by
  rw [check_eq, List.map_inj_right absence_injective, eq_comm]

end Lint.UtilityAllowList

namespace Utility

open Lint.UtilityAllowList

theorem lower?_eq_some_iff : u.lower? api = some b ↔ ∃ f, api.FirstUtility u.name f ∧
    ⟨u.name, u.scriptName, u.isPrint, f.isVararg⟩ = b := by
  simp only [lower?, Option.map_eq_some_iff, Api.utility?_eq_some_iff]

/-- What the bindings have of the allow-list is what the declared functions have there. -/
theorem map_lower? {α : Type} {get : UtilityBinding → α} {own : Utility → α}
    (h : ∀ u b, u.lower? api = some b → get b = own u) (us : List Utility) :
    (us.filterMap (lower? api)).map get =
      (us.filter fun u => (api.utility? u.name).isSome).map own := by
  induction us with
  | nil => rfl
  | cons u us ih =>
    cases hf : api.utility? u.name with
    | none =>
      have hnone : u.lower? api = none := by rw [lower?, hf, Option.map_none]
      rw [List.filterMap_cons_none hnone, ih, List.filter_cons_of_neg (by simp [hf])]
    | some f =>
      have hsome : u.lower? api = some ⟨u.name, u.scriptName, u.isPrint, f.isVararg⟩ := by
        rw [lower?, hf, Option.map_some]
      rw [List.filterMap_cons_some hsome, List.map_cons, ih,
        List.filter_cons_of_pos (by simp [hf]), List.map_cons, h u _ hsome]

theorem names_lower : (api.lower o).utilities.map (·.name) =
    (allowList.filter fun u => (api.utility? u.name).isSome).map (·.name) := by
  apply map_lower?
  intro u b hb
  obtain ⟨f, -, rfl⟩ := lower?_eq_some_iff.mp hb
  rfl

theorem scriptNames_lower : (api.lower o).utilities.map (·.scriptName) =
    (allowList.filter fun u => (api.utility? u.name).isSome).map scriptName := by
  apply map_lower?
  intro u b hb
  obtain ⟨f, -, rfl⟩ := lower?_eq_some_iff.mp hb
  rfl

/-- What is bound and what is reported make up the allow-list. -/
theorem names_perm (api : Api) (o : Options) :
    ((api.lower o).utilities.map (·.name) ++ reported api).Perm allowedNames := by
  rw [names_lower, reported, ← List.map_append]
  exact (List.filter_append_perm _ allowList).map _

theorem not_declares_of_mem_reported (h : name ∈ reported api) : ¬ api.DeclaresUtility name := by
  obtain ⟨u, hu, rfl⟩ := List.mem_map.mp h
  rw [← Api.isSome_utility?_iff]
  simpa using List.of_mem_filter hu

/-- Two lists of names that share out the allow-list, each in its order. -/
structure Partition (bound missing : List String) : Prop where
  bound_sublist : bound.Sublist allowedNames
  missing_sublist : missing.Sublist allowedNames
  bound_nodup : bound.Nodup
  missing_nodup : missing.Nodup
  disjoint : bound.Disjoint missing
  covers : ∀ name, name ∈ allowedNames ↔ name ∈ bound ∨ name ∈ missing

theorem partition_lower (api : Api) (o : Options) :
    Partition ((api.lower o).utilities.map (·.name)) (reported api) := by
  have hperm := names_perm api o
  have hnodup := List.nodup_append'.mp (hperm.nodup_iff.mpr allowedNames_nodup)
  have hsublist : ((api.lower o).utilities.map (·.name)).Sublist allowedNames := by
    rw [names_lower]
    exact List.filter_sublist.map _
  exact ⟨hsublist, List.filter_sublist.map _, hnodup.1, hnodup.2.1, hnodup.2.2,
    fun name => by rw [← hperm.mem_iff, List.mem_append]⟩

theorem scriptNames_lower_nodup (api : Api) (o : Options) :
    ((api.lower o).utilities.map (·.scriptName)).Nodup := by
  rw [scriptNames_lower]
  exact scriptNames_nodup.sublist (List.filter_sublist.map _)

/-- A function that is declared more than once is bound by its first declaration. -/
theorem firstUtility_of_mem_lower (h : b ∈ (api.lower o).utilities) :
    ∃ f, api.FirstUtility b.name f ∧ b.isVararg = f.isVararg := by
  obtain ⟨u, -, hu⟩ := List.mem_filterMap.mp h
  obtain ⟨f, hf, rfl⟩ := lower?_eq_some_iff.mp hu
  exact ⟨f, hf, rfl⟩

/-- The functions that are bound and those that are warned about share out the allow-list. Bound are
those that the API declares, as their first declarations have them and under distinct names. -/
theorem allow_list_is_shared_out (api : Api) (o o' : Options) :
    ∃ missing,
      (∀ names, Lint.utilityAllowList.check api o' = names.map absence ↔ names = missing) ∧
      Partition ((api.lower o).utilities.map (·.name)) missing ∧
      ((∃ s, Statistics.compute? api o (api.lower o) = some s) ∧
        ∀ s, Statistics.compute? api o' (api.lower o) = some s →
          s.utilities + (Lint.utilityAllowList.check api o').length = allowList.length) ∧
      ((api.lower o).utilities.map (·.scriptName)).Nodup ∧
      (∀ b ∈ (api.lower o).utilities,
        ∃ f, api.FirstUtility b.name f ∧ b.isVararg = f.isVararg) ∧
      ∀ name ∈ missing, ¬ api.DeclaresUtility name := by
  refine ⟨reported api, fun _ => check_eq_iff api o', partition_lower api o,
    ⟨Statistics.exists_compute?_lower api o, ?_⟩, scriptNames_lower_nodup api o,
    fun b => firstUtility_of_mem_lower, fun name => not_declares_of_mem_reported⟩
  intro s hs
  have hlength := (names_perm api o).length_eq
  rw [List.length_append, List.length_map] at hlength
  have hcheck : (Lint.utilityAllowList.check api o').length = (reported api).length := by
    rw [← List.length_map absence, ← check_eq api o']
    rfl
  rw [hcheck, (Statistics.compute?_eq_some_iff.mp hs).utilities]
  exact hlength.trans (List.length_map _)

end Utility

end BindingTables

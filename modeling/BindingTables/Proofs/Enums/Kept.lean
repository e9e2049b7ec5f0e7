import BindingTables.Proofs.Bindings.Classes
import BindingTables.Proofs.Enums.Collision
import BindingTables.Proofs.Pipeline.Plain

/-! Enum tables lose no value: where the lint is silent, each value of an enum stands in its table
under a name of its own. -/

namespace BindingTables

open Lint

variable {σ : Type} {api : Api} {o : Options} {e : Enum} {parent : String}

/-- The table holds every value of the enum, and scripts can tell them apart. -/
structure EnumBinding.Keeps (b : EnumBinding) (e : Enum) : Prop where
  stem : b.stem = Stem.ofValues e.valueNames
  values : b.values.map (fun v => (v.name, v.value)) = e.values.map fun v => (v.name, v.value)
  distinct : (b.values.map (·.scriptName)).Nodup
  no_digit : ∀ v ∈ b.values, ∀ c ∈ v.scriptName.toList.head?, c.isDigit = false
  no_stem : b.stem ≠ "" → ∀ v ∈ b.values, v.name ≠ b.stem
  no_empty : ∀ v ∈ b.values, v.scriptName = "" → v.name = ""

namespace Enum

theorem mem_values_lower {v : EnumValueBinding} (hv : v ∈ e.lower.values) :
    v.name ∈ e.valueNames ∧ v.scriptName = e.scriptName v.name := by
  obtain ⟨w, hw, rfl⟩ := List.mem_map.mp hv
  exact ⟨List.mem_map_of_mem hw, rfl⟩

theorem scriptNames_lower : e.lower.values.map (·.scriptName) = e.valueNames.map e.scriptName := by
  rw [lower, valueNames, List.map_map, List.map_map]
  rfl

/-- The lint and the lowering strip the same stem, so silence of the one is enough. -/
theorem keeps_lower (h : EnumCollision.checkEnum parent e = []) : e.lower.Keeps e := by
  obtain ⟨hbare, hnodup⟩ := EnumCollision.checkEnum_eq_nil parent h
  refine ⟨rfl, ?_, ?_, ?_, ?_, ?_⟩
  · rw [lower, List.map_map]
    rfl
  · rw [scriptNames_lower]
    exact hnodup
  · intro v hv c hc
    rw [(mem_values_lower hv).2] at hc
    exact Stem.not_isDigit_head_strip hc
  · intro hstem v hv hname
    have hb : e.isBare v.name = true := EnumCollision.isBare_iff.mpr ⟨hstem, hname⟩
    rw [hbare v.name (mem_values_lower hv).1] at hb
    cases hb
  · intro v hv hempty
    rw [(mem_values_lower hv).2] at hempty
    exact Stem.strip_eq_empty_iff.mp hempty

end Enum

namespace Lint.EnumCollision

/-- The lint reports nothing but errors, so a run that no error ends has seen none from it. -/
theorem checkEnum_eq_nil_of_findings (h : ∀ d ∈ findings api o, d.isError = false)
    (he : (parent, e) ∈ o.boundEnums api) : checkEnum parent e = [] := by
  rw [List.eq_nil_iff_forall_not_mem]
  intro d hd
  have hcheck : d ∈ check api o := by
    rw [check_eq_flatMap]
    exact List.mem_flatMap_of_mem he hd
  have hlint : enumCollision ∈ Lint.standard := by simp [Lint.standard]
  have hquiet := h d (mem_findings hlint hcheck)
  rw [isError_of_mem_checkEnum hd] at hquiet
  cases hquiet

end Lint.EnumCollision

namespace Options

theorem mem_boundEnums_of_global (he : e ∈ api.globalEnums) :
    ("global_enums", e) ∈ o.boundEnums api :=
  List.mem_append_left _ (List.mem_map_of_mem he)

theorem mem_boundEnums_of_class {s : Section} {c : Class} (hc : (s, c) ∈ o.boundClasses api)
    (he : e ∈ c.enums) : (s!"{s.pathOf c.name}.enums", e) ∈ o.boundEnums api :=
  List.mem_append_right _ (List.mem_flatMap.mpr ⟨(s, c), hc, List.mem_map_of_mem he⟩)

end Options

namespace Api

theorem forall₂_keeps_lower {es : List Enum}
    (h : ∀ e ∈ es, ∃ parent, EnumCollision.checkEnum parent e = []) :
    List.Forall₂ (fun e b => EnumBinding.Keeps b e) es (es.map Enum.lower) := by
  rw [List.forall₂_map_right_iff, List.forall₂_same]
  intro e he
  obtain ⟨parent, hnil⟩ := h e he
  exact Enum.keeps_lower hnil

end Api

/-- The lint finds in each bound enum what its values give cause for. Where that is no error in a
run of the standard phases, each enum of the API has a table that keeps all of its values. -/
theorem enum_tables_lose_no_value (api : Api) (o : Options) (record : σ) :
    (∃ found : List (List Diagnostic), EnumCollision.check api o = found.flatten ∧
      List.Forall₂ (fun place ds => EnumCollision.Exact place.1 place.2 ds) (o.boundEnums api)
        found) ∧
    (((Pipeline.plain o).runCollecting api record).2 = .ok () → ∃ b,
      ((Pipeline.plain o).runCollecting api record).1.context.bindings = some b ∧
      List.Forall₂ (fun e table => EnumBinding.Keeps table e) api.globalEnums b.globalEnums ∧
      List.Forall₂ (fun c table => table.name = c.2.name ∧
        List.Forall₂ (fun e table => EnumBinding.Keeps table e) c.2.enums table.enums)
        (o.boundClasses api) b.allClasses) := by
  constructor
  · refine ⟨(o.boundEnums api).map fun place => EnumCollision.checkEnum place.1 place.2, ?_, ?_⟩
    · rw [EnumCollision.check_eq_flatMap]
      rfl
    · rw [List.forall₂_map_right_iff, List.forall₂_same]
      intro place _
      exact EnumCollision.checkEnum_exact place.1 place.2
  · intro hok
    have hquiet := Pipeline.runCollecting_plain_ok_iff.mp hok
    have hnil {parent : String} {e : Enum} (he : (parent, e) ∈ o.boundEnums api) :=
      EnumCollision.checkEnum_eq_nil_of_findings hquiet he
    refine ⟨api.lower o, Pipeline.bindings_runCollecting_plain hok, ?_, ?_⟩
    · apply Api.forall₂_keeps_lower
      intro e he
      exact ⟨_, hnil (Options.mem_boundEnums_of_global he)⟩
    · apply Api.forall₂_allClasses_lower
      rintro ⟨s, c⟩ hc
      refine ⟨rfl, Api.forall₂_keeps_lower ?_⟩
      intro e he
      exact ⟨_, hnil (Options.mem_boundEnums_of_class hc he)⟩

namespace Enum

/-- Without its stem one of the values would start with a digit. -/
def key : Enum := ⟨"Key", false, [⟨"KEY_NONE", 0⟩, ⟨"KEY_0", 48⟩, ⟨"KEY_A", 65⟩]⟩

/-- Its values would share a name, but the class that declares it is skipped. -/
def twins : Enum := ⟨"Twins", false, [⟨"A", 0⟩, ⟨"A", 1⟩]⟩

def mode : Enum := ⟨"Mode", true, [⟨"MODE_2D", 2⟩, ⟨"MODE_3D", 3⟩]⟩

def classOf (name : String) (e : Enum) : Class := ⟨name, none, false, true, [], [], [], [e]⟩

def keyApi : Api := ⟨none, [key], [], [classOf "int" twins], [classOf "Node" mode], []⟩

theorem keyApi_runs : ((Pipeline.plain .standard).runCollecting keyApi ()).2 = .ok () :=
  Pipeline.runCollecting_plain_ok_iff.mpr (by decide)

theorem key_tables_lose_no_value :
    ((Pipeline.plain .standard).runCollecting keyApi ()).2 = .ok () ∧ ∃ b,
      ((Pipeline.plain .standard).runCollecting keyApi ()).1.context.bindings = some b ∧
      List.Forall₂ (fun e table => EnumBinding.Keeps table e) keyApi.globalEnums b.globalEnums ∧
      List.Forall₂ (fun c table => table.name = c.2.name ∧
        List.Forall₂ (fun e table => EnumBinding.Keeps table e) c.2.enums table.enums)
        (Options.standard.boundClasses keyApi) b.allClasses :=
  ⟨keyApi_runs, (enum_tables_lose_no_value keyApi .standard ()).2 keyApi_runs⟩

end Enum

end BindingTables

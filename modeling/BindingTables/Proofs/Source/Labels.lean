import Mathlib
import BindingTables.Proofs.Source.Search
import BindingTables.Proofs.Source.Sites

/-! The labels of a refused dump against the names of the objects that are at fault. -/

namespace BindingTables

open BindingTables.Json

variable {file text name : String} {api : Api} {site : Site} {err : InputError}
  {label : Option Span} {j k : Nat}

/-- A dump is refused for what it holds only after it has been read. -/
theorem validate_of_parse (h : Api.parse file text = .error err)
    (hread : ∀ cause span, err ≠ .malformedApi file cause span) :
    ∃ api, Api.ofJson text = .ok api ∧ api.validate file text = .error err := by
  unfold Api.parse at h
  split at h
  · exact absurd (Except.error.inj h).symm (hread _ _)
  · rename_i api hjson
    refine ⟨api, hjson, ?_⟩
    cases hvalid : api.validate file text with
    | error reason =>
      rw [hvalid] at h
      cases h
      rfl
    | ok =>
      rw [hvalid] at h
      cases h

theorem nameAt?_of_emptyEnum {shown place : String}
    (h : api.FaultAt file text site (.emptyEnum shown name place label)) :
    api.nameAt? site = some name ∧ label = declaration? text name 0 := by
  cases h with
  | globalEnum he _ => exact ⟨by simp [Api.nameAt?, he], rfl⟩
  | classEnum hc he _ => exact ⟨by simp [Api.nameAt?, hc, he], rfl⟩

/-- The label, if there is one, is the span. -/
def PointsAt (label : Option Span) (span : Span) : Prop :=
  ∀ other, label = some other → other = span

/-- The first two classes of the name are the `j`th and the `k`th. -/
structure Api.FirstTwo (api : Api) (name : String) (j k : Nat) : Prop where
  lt : j < k
  named : ∀ l ≤ k, api.nameAt? (.className l) = some name ↔ l = j ∨ l = k

theorem firstTwo_of_duplicateClass {shown : String} {first second : Option Span}
    (h : api.FirstFault file text site (.duplicateClass shown name first second)) :
    ∃ j k, site = .className k ∧ api.FirstTwo name j k ∧ first = declaration? text name 0 ∧
      second = declaration? text name 1 := by
  obtain ⟨hfault, hclean⟩ := h
  cases hfault with
  | @className k j c earlier hc hj hearlier hname =>
    refine ⟨j, k, rfl, ⟨hj, ?_⟩, rfl, rfl⟩
    intro l hl
    constructor
    · intro hnamed
      obtain ⟨b, hb, hbname⟩ := Option.map_eq_some_iff.mp hnamed
      by_contra hother
      -- the later of the two earlier classes of the name would be a fault before this one
      rcases Nat.lt_or_gt_of_ne (fun hlj => hother (Or.inl hlj)) with hlj | hjl
      · exact hclean file text _ _ (.className hearlier hlj hb (hbname.trans hname.symm)) hj
      · have hlk : l < k := Nat.lt_of_le_of_ne hl fun hlk => hother (Or.inr hlk)
        exact hclean file text _ _ (.className hb hjl hearlier (hname.trans hbname.symm)) hlk
    · rintro (rfl | rfl)
      · simp [Api.nameAt?, hearlier, hname]
      · simp [Api.nameAt?, hc]

/-- The label is on the `n`th place where the text declares the name of what stands at the site.
That has its name at `own`, and the label points there exactly if the `n`th place is no other. -/
structure Labelled (text name : String) (n : Nat) (label : Option Span) (site : Site) (own : Span) :
    Prop where
  named : site.NamedAt text name own
  declares : ∀ span, label = some span ↔ Declares text name n span
  points : PointsAt label own ↔ ∀ span, Declares text name n span → span = own

theorem exists_labelled (h : Api.ofJson text = .ok api) (hname : api.nameAt? site = some name)
    (n : Nat) : ∃ own, Labelled text name n (declaration? text name n) site own := by
  obtain ⟨own, hown⟩ := exists_namedAt h hname
  refine ⟨own, hown, fun span => declaration?_eq_some_iff, ?_⟩
  simp [PointsAt, declaration?_eq_some_iff]

/-- A refusal labels the first places where the text declares the name, whoever has the name there,
so a label points at the object at fault exactly if that object has it. -/
theorem labels_point_exactly (file text : String) :
    (∀ shown name place label,
      Api.parse file text = .error (.emptyEnum shown name place label) →
      ∃ api site own, Api.ofJson text = .ok api ∧
        api.FirstFault file text site (.emptyEnum shown name place label) ∧
        Labelled text name 0 label site own) ∧
    ∀ shown name first second,
      Api.parse file text = .error (.duplicateClass shown name first second) →
      ∃ api j k own again, Api.ofJson text = .ok api ∧
        api.FirstFault file text (.className k) (.duplicateClass shown name first second) ∧
        api.FirstTwo name j k ∧ Labelled text name 0 first (.className j) own ∧
        Labelled text name 1 second (.className k) again ∧
        (¬ MixesSpacings text name →
          ∀ a b, first = some a → second = some b → a.start < b.start) := by
  constructor
  · intro shown name place label h
    obtain ⟨api, hjson, hvalid⟩ := validate_of_parse h (by simp)
    obtain ⟨site, hfirst⟩ := Api.validate_eq_error_iff.mp hvalid
    obtain ⟨hname, rfl⟩ := nameAt?_of_emptyEnum hfirst.fault
    obtain ⟨own, hown⟩ := exists_labelled hjson hname 0
    exact ⟨api, site, own, hjson, hfirst, hown⟩
  · intro shown name first second h
    obtain ⟨api, hjson, hvalid⟩ := validate_of_parse h (by simp)
    obtain ⟨site, hfirst⟩ := Api.validate_eq_error_iff.mp hvalid
    obtain ⟨j, k, rfl, htwo, rfl, rfl⟩ := firstTwo_of_duplicateClass hfirst
    have hname := (htwo.named j (Nat.le_of_lt htwo.lt)).mpr (.inl rfl)
    have hname' := (htwo.named k (Nat.le_refl k)).mpr (.inr rfl)
    obtain ⟨own, hown⟩ := exists_labelled hjson hname 0
    obtain ⟨again, hagain⟩ := exists_labelled hjson hname' 1
    refine ⟨api, j, k, own, again, hjson, hfirst, htwo, hown, hagain, ?_⟩
    intro hnot a b ha hb
    exact ((hown.declares a).mp ha).start_lt ((hagain.declares b).mp hb) hnot

/-- An enum that shares its name with nothing. -/
def sideDump : String := "\x7b\"global_enums\":[\x7b\"name\":\"Side\"\x7d]\x7d"

/-- A class that is declared twice. -/
def nodeDump : String :=
  "\x7b\"classes\":[\x7b\"name\":\"Node\"\x7d,\x7b\"name\":\"Node\"\x7d]\x7d"

theorem labels_point_exactly_side_node :
    (∃ api site own, Api.ofJson sideDump = .ok api ∧
      api.FirstFault "api.json" sideDump site
        (.emptyEnum "api.json" "Side" "global_enums" (some ⟨26, 4⟩)) ∧
      Labelled sideDump "Side" 0 (some ⟨26, 4⟩) site own) ∧
    ∃ api j k own again, Api.ofJson nodeDump = .ok api ∧
      api.FirstFault "api.json" nodeDump (.className k)
        (.duplicateClass "api.json" "Node" (some ⟨21, 4⟩) (some ⟨37, 4⟩)) ∧
      api.FirstTwo "Node" j k ∧ Labelled nodeDump "Node" 0 (some ⟨21, 4⟩) (.className j) own ∧
      Labelled nodeDump "Node" 1 (some ⟨37, 4⟩) (.className k) again ∧
      (¬ MixesSpacings nodeDump "Node" →
        ∀ a b : Span, some ⟨21, 4⟩ = some a → some ⟨37, 4⟩ = some b → a.start < b.start) :=
  ⟨(labels_point_exactly "api.json" sideDump).1 "api.json" "Side" "global_enums" (some ⟨26, 4⟩)
      (by cbv),
    (labels_point_exactly "api.json" nodeDump).2 "api.json" "Node" (some ⟨21, 4⟩) (some ⟨37, 4⟩)
      (by cbv)⟩

/-- An enum of a class, without values, and a global enum of the same name that has some. -/
def kindDump : String :=
  "\x7b\"global_enums\":[\x7b\"name\":\"Kind\"," ++
    "\"values\":[\x7b\"name\":\"BOX\",\"value\":0\x7d]\x7d]," ++
    "\"classes\":[\x7b\"name\":\"Body\",\"enums\":[\x7b\"name\":\"Kind\"\x7d]\x7d]\x7d"

def kindApi : Api where
  header := none
  globalEnums := [⟨"Kind", false, [⟨"BOX", 0⟩]⟩]
  utilityFunctions := []
  builtinClasses := []
  classes := [⟨"Body", none, false, false, [], [], [], [⟨"Kind", false, []⟩]⟩]
  singletons := []

def kindError : InputError :=
  .emptyEnum "api.json" "Kind" "classes.Body.enums" (some ⟨26, 4⟩)

theorem ofJson_kindDump : Api.ofJson kindDump = .ok kindApi := by cbv

theorem declaration?_kindDump : declaration? kindDump "Kind" 0 = some ⟨26, 4⟩ := by cbv

theorem nameSpan?_kindDump : (Site.classEnum 0 0).nameSpan? kindDump.toList
    (Document.ofChars kindDump.toList).root = some ⟨114, 4⟩ := by cbv

theorem parse_kindDump : Api.parse "api.json" kindDump = .error kindError := by
  have hflaw : kindApi.flaw? = some (.emptyEnum "Kind" ["classes", "Body", "enums"]) := rfl
  rw [Api.parse, ofJson_kindDump]
  simp only [Api.validate, hflaw, Api.Flaw.toError, declaration?_kindDump]
  rfl

/-- The enum without values has its name at 114, and the label is on the global enum. -/
theorem kind_label_points_elsewhere :
    Api.parse "api.json" kindDump = .error kindError ∧ Api.ofJson kindDump = .ok kindApi ∧
      kindApi.FaultAt "api.json" kindDump (.classEnum 0 0) kindError ∧
      (Site.classEnum 0 0).NamedAt kindDump "Kind" ⟨114, 4⟩ ∧
      ¬ PointsAt (some ⟨26, 4⟩) ⟨114, 4⟩ := by
  have hfault : kindApi.FaultAt "api.json" kindDump (.classEnum 0 0) kindError := by
    have h : kindApi.FaultAt "api.json" kindDump (.classEnum 0 0) _ := .classEnum rfl rfl rfl
    rw [declaration?_kindDump] at h
    exact h
  have hname : kindApi.nameAt? (.classEnum 0 0) = some "Kind" := rfl
  obtain ⟨span, hspan⟩ := exists_namedAt ofJson_kindDump hname
  cases hspan.stands.symm.trans nameSpan?_kindDump
  refine ⟨parse_kindDump, ofJson_kindDump, hfault, hspan, ?_⟩
  intro hpoints
  exact absurd (hpoints ⟨26, 4⟩ rfl) (by decide)

end BindingTables

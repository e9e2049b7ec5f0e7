import BindingTables.Proofs.Source.Fields
import BindingTables.Proofs.Validation.FirstFault

/-! What a dump names at a site, its text has the name of there. -/

namespace BindingTables

open BindingTables.Json

variable {α : Type} {source : List Char} {text name : String} {node root : Node} {api : Api}
  {site : Site} {i k start : Nat}

/-! The fields on the way to a name. -/

theorem Enum.sets_name : Enum.schema.Sets "name" true Node.asText (·.name) where
  own := ⟨_, rfl, fun _ _ => rfl⟩
  others := by simp [Enum.schema, textField, flagField, listField, keeps_ofReader]
  keys_nodup := by decide

theorem Class.sets_name : Class.schema.Sets "name" true Node.asText (·.name) where
  own := ⟨_, rfl, fun _ _ => rfl⟩
  others := by simp [Class.schema, textField, optionalText, flagField, listField, keeps_ofReader]
  keys_nodup := by decide

theorem Class.sets_enums :
    Class.schema.Sets "enums" false (Node.listOf Enum.schema.read) (·.enums) where
  own := ⟨_, rfl, fun _ _ => rfl⟩
  others := by simp [Class.schema, textField, optionalText, flagField, listField, keeps_ofReader]
  keys_nodup := by decide

theorem Api.sets_globalEnums :
    Api.schema.Sets "global_enums" false (Node.listOf Enum.schema.read) (·.globalEnums) where
  own := ⟨_, rfl, fun _ _ => rfl⟩
  others := by simp [Api.schema, listField, keeps_ofReader]
  keys_nodup := by decide

theorem Api.sets_builtinClasses : Api.schema.Sets "builtin_classes" false
    (Node.listOf Class.schema.read) (·.builtinClasses) where
  own := ⟨_, rfl, fun _ _ => rfl⟩
  others := by simp [Api.schema, listField, keeps_ofReader]
  keys_nodup := by decide

theorem Api.sets_classes :
    Api.schema.Sets "classes" false (Node.listOf Class.schema.read) (·.classes) where
  own := ⟨_, rfl, fun _ _ => rfl⟩
  others := by simp [Api.schema, listField, keeps_ofReader]
  keys_nodup := by decide

/-! The names in the tree of a dump. -/

/-- The span holds, between quotes, a literal of the source that reads as the name. -/
def Quotes (source : List Char) (span : Span) (name : String) : Prop :=
  ∃ start, span.start = start + 1 ∧ Literal source name start (span.start + span.length + 1)

/-- Where a record has its name, without the quotes. -/
def Json.Schema.nameSpan? (schema : Schema α) (source : List Char) (node : Node) : Option Span :=
  match schema.value? source "name" node with
  | some (start, .text _ stop) => some ⟨start + 1, stop - start - 2⟩
  | _ => none

/-- The classes that the tree of a dump holds, builtin classes first. -/
def classNodes (source : List Char) (root : Node) : List (Nat × Node) :=
  Api.schema.entries source "builtin_classes" root ++ Api.schema.entries source "classes" root

/-- Where the text has the name of the enum or the class that stands at the site. -/
def Site.nameSpan? (source : List Char) (root : Node) : Site → Option Span
  | globalEnum i => do
    let e ← (Api.schema.entries source "global_enums" root)[i]?
    Enum.schema.nameSpan? source e.2
  | className k => do
    let c ← (classNodes source root)[k]?
    Class.schema.nameSpan? source c.2
  | classEnum k i => do
    let c ← (classNodes source root)[k]?
    let e ← (Class.schema.entries source "enums" c.2)[i]?
    Enum.schema.nameSpan? source e.2

/-- The name that a dump has at a site. -/
def Api.nameAt? (api : Api) : Site → Option String
  | .globalEnum i => (api.globalEnums[i]?).map (·.name)
  | .className k => (api.sectionedClasses[k]?).map (·.2.name)
  | .classEnum k i => (api.sectionedClasses[k]?).bind fun c => (c.2.enums[i]?).map (·.name)

/-- What stands at the site has its name at the span. -/
structure Site.NamedAt (site : Site) (text name : String) (span : Span) : Prop where
  stands : site.nameSpan? text.toList (Document.ofChars text.toList).root = some span
  quotes : Quotes text.toList span name

theorem getElem?_of_forall₂ {β γ : Type} {R : β → γ → Prop} {xs : List β} {ys : List γ} {y : γ}
    (h : List.Forall₂ R xs ys) (hy : ys[i]? = some y) : ∃ x, xs[i]? = some x ∧ R x y := by
  induction h generalizing i with
  | nil => cases hy
  | cons hr _ ih =>
    cases i with
    | zero =>
      cases hy
      exact ⟨_, rfl, hr⟩
    | succ i => exact ih hy

/-- The name that a record has is quoted in the text at the place of its field. -/
theorem quotes_name {schema : Schema α} {get : α → String} {record : α}
    (hsets : schema.Sets "name" true Node.asText get) (hread : schema.read node = .ok record)
    (hplaced : node.Placed source start) :
    ∃ span, schema.nameSpan? source node = some span ∧ Quotes source span (get record) := by
  obtain ⟨start', stop, hvalue⟩ := hsets.text source hread
  have hliteral := hplaced.value hvalue
  rw [Node.Placed] at hliteral
  have hstop : start' + 2 ≤ stop := by
    obtain ⟨_, raw, _, _, _, hraw, _⟩ := hliteral
    omega
  refine ⟨⟨start' + 1, stop - start' - 2⟩, by rw [Schema.nameSpan?, hvalue], start', rfl, ?_⟩
  have hend : start' + 1 + (stop - start' - 2) + 1 = stop := by omega
  rwa [hend]

theorem read_of_ofJson (h : Api.ofJson text = .ok api) :
    Api.schema.read (Document.ofChars text.toList).root = .ok api := by
  unfold Api.ofJson readText? at h
  dsimp only at h
  split at h
  · cases h
  · cases h
  · cases h
    assumption

theorem placed_classNodes (hplaced : root.Placed source start) {place : Nat × Node}
    (hplace : place ∈ classNodes source root) : place.2.Placed source place.1 := by
  rcases List.mem_append.mp hplace with h | h
  · exact hplaced.entry h
  · exact hplaced.entry h

/-- Builtin classes stand before the others in the tree, as they do in the API. -/
theorem forall₂_classNodes (h : Api.schema.read root = .ok api) :
    List.Forall₂ (fun place c => Class.schema.read place.2 = .ok c) (classNodes source root)
      (api.sectionedClasses.map (·.2)) := by
  rw [Api.map_sectionedClasses]
  exact List.rel_append (Api.sets_builtinClasses.entries source rfl h)
    (Api.sets_classes.entries source rfl h)

/-- The class that is counted as `k` in the API is the node that is counted as `k` in the tree. -/
theorem exists_classNode (source : List Char) (h : Api.schema.read root = .ok api)
    {c : Section × Class} (hc : api.sectionedClasses[k]? = some c) : ∃ place,
      (classNodes source root)[k]? = some place ∧ Class.schema.read place.2 = .ok c.2 := by
  have hclass : (api.sectionedClasses.map (·.2))[k]? = some c.2 := by simp [hc]
  obtain ⟨place, hplace, hread⟩ := getElem?_of_forall₂ (forall₂_classNodes h) hclass
  exact ⟨place, hplace, hread⟩

/-- Whatever a dump names at a site, the text has the name there. -/
theorem exists_namedAt (h : Api.ofJson text = .ok api) (hname : api.nameAt? site = some name) :
    ∃ span, site.NamedAt text name span := by
  have hread := read_of_ofJson h
  have hplaced := placed_root text.toList
  cases site with
  | globalEnum i =>
    obtain ⟨e, he, rfl⟩ := Option.map_eq_some_iff.mp hname
    obtain ⟨place, hplace, hreads⟩ :=
      getElem?_of_forall₂ (Api.sets_globalEnums.entries text.toList rfl hread) he
    have hat := hplaced.entry (List.mem_of_getElem? hplace)
    obtain ⟨span, hspan, hquotes⟩ := quotes_name Enum.sets_name hreads hat
    exact ⟨span, by simp [Site.nameSpan?, hplace, hspan], hquotes⟩
  | className k =>
    obtain ⟨c, hc, rfl⟩ := Option.map_eq_some_iff.mp hname
    obtain ⟨place, hplace, hreads⟩ := exists_classNode text.toList hread hc
    have hat := placed_classNodes hplaced (List.mem_of_getElem? hplace)
    obtain ⟨span, hspan, hquotes⟩ := quotes_name Class.sets_name hreads hat
    exact ⟨span, by simp [Site.nameSpan?, hplace, hspan], hquotes⟩
  | classEnum k i =>
    obtain ⟨c, hc, hsome⟩ := Option.bind_eq_some_iff.mp hname
    obtain ⟨e, he, rfl⟩ := Option.map_eq_some_iff.mp hsome
    obtain ⟨place, hplace, hreads⟩ := exists_classNode text.toList hread hc
    obtain ⟨place', hplace', hreads'⟩ :=
      getElem?_of_forall₂ (Class.sets_enums.entries text.toList rfl hreads) he
    have hat := (placed_classNodes hplaced (List.mem_of_getElem? hplace)).entry
      (List.mem_of_getElem? hplace')
    obtain ⟨span, hspan, hquotes⟩ := quotes_name Enum.sets_name hreads' hat
    exact ⟨span, by simp [Site.nameSpan?, hplace, hplace', hspan], hquotes⟩

end BindingTables

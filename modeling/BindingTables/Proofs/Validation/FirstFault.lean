import Mathlib.Data.List.Nodup
import BindingTables.Api.Validation
import BindingTables.Proofs.Bindings.Classes

/-! Validation refuses a dump for its first fault, and accepts those that have none. -/

namespace BindingTables

/-- A place where a dump can be at fault. Classes are counted through both sections. -/
inductive Site
  | globalEnum (i : Nat)
  | className (k : Nat)
  | classEnum (k i : Nat)
deriving DecidableEq

namespace Site

/-- The order of a check: global enums, then class by class the name and the enums. -/
def Before : Site → Site → Prop
  | globalEnum i, globalEnum j => i < j
  | globalEnum _, _ => True
  | _, globalEnum _ => False
  | className k, className l => k < l
  | className k, classEnum l _ => k ≤ l
  | classEnum k _, className l => k < l
  | classEnum k i, classEnum l j => k < l ∨ k = l ∧ i < j

/-- Of two sites that differ one is checked before the other. -/
theorem before_or_eq_or_after (a b : Site) : a.Before b ∨ a = b ∨ b.Before a := by
  cases a <;> cases b <;> simp [Before] <;> omega

end Site

namespace Api

variable {api : Api} {file source : String} {site other : Site} {err reason : InputError}
  {e : Enum} {enums : List Enum} {c : Class} {s : Section} {flaw : Flaw} {path : List String}
  {k : Nat}

/-- All enums hold values, and no two classes share a name. -/
structure WellFormed (api : Api) : Prop where
  globalEnums : ∀ e ∈ api.globalEnums, e.values ≠ []
  classEnums : ∀ c ∈ api.builtinClasses ++ api.classes, ∀ e ∈ c.enums, e.values ≠ []
  names_nodup : ((api.builtinClasses ++ api.classes).map (·.name)).Nodup

/-- The dump is at fault at the site, as the error describes. -/
inductive FaultAt (api : Api) (file source : String) : Site → InputError → Prop
  | globalEnum {i : Nat} {e : Enum} : api.globalEnums[i]? = some e → e.values = [] →
    FaultAt api file source (.globalEnum i)
      (.emptyEnum file e.name "global_enums" (declaration? source e.name 0))
  | className {k j : Nat} {c earlier : Section × Class} : api.sectionedClasses[k]? = some c →
    j < k → api.sectionedClasses[j]? = some earlier → earlier.2.name = c.2.name →
    FaultAt api file source (.className k)
      (.duplicateClass file c.2.name (declaration? source c.2.name 0)
        (declaration? source c.2.name 1))
  | classEnum {k i : Nat} {c : Section × Class} {e : Enum} :
    api.sectionedClasses[k]? = some c → c.2.enums[i]? = some e → e.values = [] →
    FaultAt api file source (.classEnum k i)
      (.emptyEnum file e.name s!"{c.1.pathOf c.2.name}.enums" (declaration? source e.name 0))

/-- The dump has no fault at a site that is checked before this one. -/
def CleanBefore (api : Api) (site : Site) : Prop :=
  ∀ file source other err, api.FaultAt file source other err → ¬ other.Before site

/-- The error describes the first fault of the dump. -/
structure FirstFault (api : Api) (file source : String) (site : Site) (err : InputError) :
    Prop where
  fault : api.FaultAt file source site err
  clean : api.CleanBefore site

/-- At one site there is one thing wrong at most. -/
theorem FaultAt.error_unique (h : api.FaultAt file source site err)
    (h' : api.FaultAt file source site reason) : err = reason := by
  cases h with
  | globalEnum he _ =>
    cases h' with
    | globalEnum he' _ => rw [Option.some.inj (he.symm.trans he')]
  | className hc _ _ _ =>
    cases h' with
    | className hc' _ _ _ => rw [Option.some.inj (hc.symm.trans hc')]
  | classEnum hc he _ =>
    cases h' with
    | classEnum hc' he' _ =>
      cases hc.symm.trans hc'
      rw [Option.some.inj (he.symm.trans he')]

theorem FirstFault.unique (h : api.FirstFault file source site err)
    (h' : api.FirstFault file source other reason) : site = other ∧ err = reason := by
  rcases site.before_or_eq_or_after other with hb | rfl | hb
  · exact absurd hb (h'.clean _ _ _ _ h.fault)
  · exact ⟨rfl, h.fault.error_unique h'.fault⟩
  · exact absurd hb (h.clean _ _ _ _ h'.fault)

/-! What is clean up to a site is clean up to the next one, if nothing is at fault there. -/

theorem CleanBefore.extend {next : Site} (h : api.CleanBefore site)
    (hnext : ∀ {file source other err}, api.FaultAt file source other err →
      other.Before next → other.Before site) : api.CleanBefore next :=
  fun file source other err hf hb => h file source other err hf (hnext hf hb)

theorem cleanBefore_globalEnum_zero : api.CleanBefore (.globalEnum 0) := by
  intro _ _ other _ _ hb
  cases other <;> simp [Site.Before] at hb

theorem cleanBefore_globalEnum_succ {i : Nat} (h : api.CleanBefore (.globalEnum i))
    (he : api.globalEnums[i]? = some e) (hv : e.values ≠ []) :
    api.CleanBefore (.globalEnum (i + 1)) := by
  refine h.extend fun hf hb => ?_
  cases hf with
  | @globalEnum j e' hj hempty =>
    have hne : j ≠ i := by
      rintro rfl
      rw [he] at hj
      exact hv (Option.some.inj hj ▸ hempty)
    simp only [Site.Before] at hb ⊢
    omega
  | className => exact hb
  | classEnum => exact hb

theorem cleanBefore_className_zero (h : api.CleanBefore (.globalEnum api.globalEnums.length)) :
    api.CleanBefore (.className 0) := by
  refine h.extend fun hf hb => ?_
  cases hf with
  | globalEnum hi _ => exact (List.getElem?_eq_some_iff.mp hi).1
  | className => exact absurd hb (Nat.not_lt_zero _)
  | classEnum => exact absurd hb (Nat.not_lt_zero _)

theorem cleanBefore_classEnum_zero {cs : Section × Class} (h : api.CleanBefore (.className k))
    (hc : api.sectionedClasses[k]? = some cs)
    (hnew : ∀ j < k, ∀ b, api.sectionedClasses[j]? = some b → b.2.name ≠ cs.2.name) :
    api.CleanBefore (.classEnum k 0) := by
  refine h.extend fun hf hb => ?_
  cases hf with
  | globalEnum => trivial
  | @className l j c b hl hj hb' hname =>
    have hne : l ≠ k := by
      rintro rfl
      rw [hc] at hl
      exact hnew j hj b hb' (Option.some.inj hl ▸ hname)
    simp only [Site.Before] at hb ⊢
    omega
  | classEnum =>
    simp only [Site.Before] at hb ⊢
    omega

theorem cleanBefore_classEnum_succ {cs : Section × Class} {i : Nat}
    (h : api.CleanBefore (.classEnum k i)) (hc : api.sectionedClasses[k]? = some cs)
    (he : cs.2.enums[i]? = some e) (hv : e.values ≠ []) :
    api.CleanBefore (.classEnum k (i + 1)) := by
  refine h.extend fun hf hb => ?_
  cases hf with
  | globalEnum => trivial
  | className => exact hb
  | @classEnum l j c e' hl hj hempty =>
    have hne : l = k → j ≠ i := by
      rintro rfl rfl
      rw [hc] at hl
      cases hl
      rw [he] at hj
      exact hv (Option.some.inj hj ▸ hempty)
    simp only [Site.Before] at hb ⊢
    omega

theorem cleanBefore_className_succ {cs : Section × Class}
    (h : api.CleanBefore (.classEnum k cs.2.enums.length))
    (hc : api.sectionedClasses[k]? = some cs) : api.CleanBefore (.className (k + 1)) := by
  refine h.extend fun hf hb => ?_
  cases hf with
  | globalEnum => trivial
  | className =>
    simp only [Site.Before] at hb ⊢
    omega
  | @classEnum l j c e' hl hj _ =>
    have hlt : l = k → j < cs.2.enums.length := by
      rintro rfl
      rw [hc] at hl
      cases hl
      exact (List.getElem?_eq_some_iff.mp hj).1
    simp only [Site.Before] at hb ⊢
    omega

/-- A check that has come behind the last class has found nothing. -/
theorem not_faultAt_of_cleanBefore
    (h : api.CleanBefore (.className api.sectionedClasses.length)) :
    ¬ api.FaultAt file source site err := by
  intro hf
  refine h file source site err hf ?_
  cases hf with
  | globalEnum => trivial
  | className hk _ _ _ => exact (List.getElem?_eq_some_iff.mp hk).1
  | classEnum hk _ _ => exact (List.getElem?_eq_some_iff.mp hk).1

/-! The check of a list of enums, for the global ones and for those of a class. -/

theorem enumFlaw?_eq_none_iff : enumFlaw? path e = none ↔ e.values ≠ [] := by
  simp [enumFlaw?]

theorem enumFlaw?_eq_some_iff :
    enumFlaw? path e = some flaw ↔ e.values = [] ∧ .emptyEnum e.name path = flaw := by
  simp [enumFlaw?]

/-- `Clean i` says that the sites before the `i`th enum are clean. -/
theorem clean_of_take {Clean : Nat → Prop} (hzero : Clean 0)
    (hsucc : ∀ i e, enums[i]? = some e → e.values ≠ [] → Clean i → Clean (i + 1)) {i : Nat}
    (hi : i ≤ enums.length) (hv : ∀ e ∈ enums.take i, e.values ≠ []) : Clean i := by
  induction i with
  | zero => exact hzero
  | succ i ih =>
    have he : enums[i]? = some enums[i] := List.getElem?_eq_getElem (by omega)
    have htake : enums.take (i + 1) = enums.take i ++ [enums[i]] :=
      (List.take_append_getElem (by omega)).symm
    simp only [htake, List.forall_mem_append, List.forall_mem_singleton] at hv
    exact hsucc i enums[i] he hv.2 (ih (by omega) hv.1)

/-- A list of enums is clean to its end, or up to the first enum that holds no value. -/
theorem findSome?_enumFlaw? (enums : List Enum) (path : List String) (Clean : Nat → Prop)
    (hzero : Clean 0)
    (hsucc : ∀ i e, enums[i]? = some e → e.values ≠ [] → Clean i → Clean (i + 1)) :
    match enums.findSome? (enumFlaw? path) with
    | none => Clean enums.length
    | some flaw => ∃ i e, enums[i]? = some e ∧ e.values = [] ∧ Clean i ∧
        .emptyEnum e.name path = flaw := by
  split
  · rename_i hnone
    refine clean_of_take hzero hsucc (Nat.le_refl _) ?_
    rw [List.take_length]
    intro e he
    exact enumFlaw?_eq_none_iff.mp (List.findSome?_eq_none_iff.mp hnone e he)
  · rename_i flaw hsome
    obtain ⟨front, e, back, rfl, he, hfront⟩ := List.findSome?_eq_some_iff.mp hsome
    obtain ⟨hempty, rfl⟩ := enumFlaw?_eq_some_iff.mp he
    refine ⟨front.length, e, by simp, hempty, clean_of_take hzero hsucc (by simp) ?_, rfl⟩
    intro e' he'
    rw [List.take_left' rfl] at he'
    exact enumFlaw?_eq_none_iff.mp (hfront e' he')

/-- The flaw is, as an error, the first fault of the dump. -/
def Flaw.IsFirst (api : Api) (flaw : Flaw) : Prop :=
  ∃ site, ∀ file source, api.FirstFault file source site (flaw.toError file source)

/-- The path of a flaw, as its error tells it. -/
theorem location_enumPath (s : Section) (c : Class) :
    location (enumPath s c) = s!"{s.pathOf c.name}.enums" := by
  have hjoin : location (enumPath s c) = s.key ++ "." ++ c.name ++ "." ++ "enums" := rfl
  rw [hjoin, String.append_assoc, Section.pathOf_eq]
  rfl

theorem isFirst_globalEnum {i : Nat} (hclean : api.CleanBefore (.globalEnum i))
    (he : api.globalEnums[i]? = some e) (hempty : e.values = []) :
    (Flaw.emptyEnum e.name ["global_enums"]).IsFirst api :=
  ⟨.globalEnum i, fun _ _ => ⟨.globalEnum he hempty, hclean⟩⟩

theorem isFirst_classEnum {i : Nat} (hclean : api.CleanBefore (.classEnum k i))
    (hc : api.sectionedClasses[k]? = some (s, c)) (he : c.enums[i]? = some e)
    (hempty : e.values = []) : (Flaw.emptyEnum e.name (enumPath s c)).IsFirst api := by
  refine ⟨.classEnum k i, fun file source => ⟨?_, hclean⟩⟩
  have hfault : api.FaultAt file source (.classEnum k i) _ := .classEnum hc he hempty
  rw [← location_enumPath] at hfault
  exact hfault

theorem isFirst_className {j : Nat} {cs earlier : Section × Class}
    (hclean : api.CleanBefore (.className k)) (hc : api.sectionedClasses[k]? = some cs)
    (hj : j < k) (hb : api.sectionedClasses[j]? = some earlier)
    (hname : earlier.2.name = cs.2.name) : (Flaw.duplicateClass cs.2.name).IsFirst api :=
  ⟨.className k, fun _ _ => ⟨.className hc hj hb hname, hclean⟩⟩

/-- The check of the classes from `rest` on, when those before it are clean and their names have
been seen. -/
theorem classFlaw?_first (before : List (Section × Class)) {rest : List (Section × Class)}
    {seen : List String}
    (hall : api.sectionedClasses = before ++ rest)
    (hseen : ∀ name, name ∈ seen ↔ ∃ b ∈ before, b.2.name = name)
    (hclean : api.CleanBefore (.className before.length)) :
    match classFlaw? seen rest with
    | none => api.CleanBefore (.className api.sectionedClasses.length)
    | some flaw => flaw.IsFirst api := by
  induction rest generalizing before seen with
  | nil =>
    rw [hall, List.append_nil]
    exact hclean
  | cons cs rest ih =>
    obtain ⟨s, c⟩ := cs
    have hc : api.sectionedClasses[before.length]? = some (s, c) := by simp [hall]
    have hbefore {j : Nat} (hj : j < before.length) : api.sectionedClasses[j]? = before[j]? := by
      rw [hall, List.getElem?_append_left hj]
    rw [classFlaw?]
    by_cases hname : c.name ∈ seen
    · obtain ⟨b, hb, hbname⟩ := (hseen c.name).mp hname
      obtain ⟨j, hj⟩ := List.getElem?_of_mem hb
      have hlt := (List.getElem?_eq_some_iff.mp hj).1
      rw [if_pos (by simpa using hname)]
      exact isFirst_className hclean hc hlt ((hbefore hlt).trans hj) hbname
    · have hnew : ∀ j < before.length, ∀ b, api.sectionedClasses[j]? = some b →
          b.2.name ≠ c.name := by
        intro j hj b hb hbname
        rw [hbefore hj] at hb
        exact hname ((hseen c.name).mpr ⟨b, List.mem_of_getElem? hb, hbname⟩)
      have henums := findSome?_enumFlaw? c.enums (enumPath s c)
        (fun i => api.CleanBefore (.classEnum before.length i))
        (cleanBefore_classEnum_zero hclean hc hnew)
        fun i e he hv h => cleanBefore_classEnum_succ h hc he hv
      rw [if_neg (by simpa using hname)]
      split at henums
      · rename_i hnone
        rw [hnone]
        refine ih (before ++ [(s, c)]) (by simp [hall]) ?_ ?_
        · intro name
          simp [hseen, or_comm, eq_comm]
        · rw [List.length_append]
          exact cleanBefore_className_succ henums hc
      · rename_i flaw hsome
        obtain ⟨i, e, he, hempty, h, rfl⟩ := henums
        rw [hsome]
        exact isFirst_classEnum h hc he hempty

/-- The check of a whole dump: the global enums, and behind them the classes. -/
theorem flaw?_first (api : Api) :
    match api.flaw? with
    | none => api.CleanBefore (.className api.sectionedClasses.length)
    | some flaw => flaw.IsFirst api := by
  have henums := findSome?_enumFlaw? api.globalEnums ["global_enums"]
    (fun i => api.CleanBefore (.globalEnum i)) cleanBefore_globalEnum_zero
    fun i e he hv h => cleanBefore_globalEnum_succ h he hv
  rw [flaw?]
  split at henums
  · rename_i hnone
    rw [hnone]
    exact classFlaw?_first [] rfl (by simp) (cleanBefore_className_zero henums)
  · rename_i flaw hsome
    obtain ⟨i, e, he, hempty, h, rfl⟩ := henums
    rw [hsome]
    exact isFirst_globalEnum h he hempty

theorem map_sectionedClasses (api : Api) :
    api.sectionedClasses.map (·.2) = api.builtinClasses ++ api.classes := by
  simp [sectionedClasses, Function.comp_def]

/-- Well-formed dumps are those with no site at fault. -/
theorem wellFormed_iff (file source : String) :
    api.WellFormed ↔ ∀ site err, ¬ api.FaultAt file source site err := by
  constructor
  · rintro ⟨hglobal, hclass, hnodup⟩ site err hf
    rw [← map_sectionedClasses] at hclass hnodup
    cases hf with
    | globalEnum he hempty => exact hglobal _ (List.mem_of_getElem? he) hempty
    | @className k j c b hc hj hb hname =>
      rw [List.nodup_iff_getElem?_ne_getElem?] at hnodup
      refine hnodup j k hj (by simpa using (List.getElem?_eq_some_iff.mp hc).1) ?_
      simp [List.getElem?_map, hb, hc, hname]
    | classEnum hc he hempty =>
      exact hclass _ (List.mem_map_of_mem (List.mem_of_getElem? hc)) _ (List.mem_of_getElem? he)
        hempty
  · intro h
    refine ⟨?_, ?_, ?_⟩
    · intro e he hempty
      obtain ⟨i, hi⟩ := List.getElem?_of_mem he
      exact h _ _ (.globalEnum hi hempty)
    · rw [← map_sectionedClasses, List.forall_mem_map]
      intro c hc e he hempty
      obtain ⟨k, hk⟩ := List.getElem?_of_mem hc
      obtain ⟨i, hi⟩ := List.getElem?_of_mem he
      exact h _ _ (.classEnum hk hi hempty)
    · rw [← map_sectionedClasses, List.nodup_iff_getElem?_ne_getElem?]
      intro j k hj hk heq
      rw [List.length_map, List.length_map] at hk
      have hb := List.getElem?_eq_getElem (show j < api.sectionedClasses.length by omega)
      have hc := List.getElem?_eq_getElem hk
      simp only [List.getElem?_map, hb, hc, Option.map_some, Option.some.injEq] at heq
      exact h _ _ (.className hc hj hb heq)

theorem validate_eq_ok_iff : api.validate file source = .ok () ↔ api.WellFormed := by
  have hfirst := flaw?_first api
  rw [validate, wellFormed_iff file source]
  cases hflaw : api.flaw? with
  | none =>
    rw [hflaw] at hfirst
    simpa using fun site err => not_faultAt_of_cleanBefore hfirst
  | some flaw =>
    rw [hflaw] at hfirst
    obtain ⟨site, h⟩ := hfirst
    simpa using ⟨site, _, (h file source).fault⟩

theorem validate_eq_error_iff :
    api.validate file source = .error err ↔ ∃ site, api.FirstFault file source site err := by
  have hfirst := flaw?_first api
  rw [validate]
  cases hflaw : api.flaw? with
  | none =>
    rw [hflaw] at hfirst
    simpa using fun site h => not_faultAt_of_cleanBefore hfirst h.fault
  | some flaw =>
    rw [hflaw] at hfirst
    obtain ⟨site, h⟩ := hfirst
    constructor
    · intro herr
      exact ⟨site, Except.error.inj herr ▸ h file source⟩
    · rintro ⟨other, hother⟩
      exact congrArg Except.error ((h file source).unique hother).2

/-- Validation accepts exactly the well-formed dumps, and refuses each other one for the fault that
stands first in the order of the check. -/
theorem validation_finds_first_fault (api : Api) (file source : String) :
    (api.validate file source = .ok () ↔ api.WellFormed) ∧
      ∀ err, api.validate file source = .error err ↔
        ∃ site, api.FirstFault file source site err :=
  ⟨validate_eq_ok_iff, fun _ => validate_eq_error_iff⟩

end Api

end BindingTables

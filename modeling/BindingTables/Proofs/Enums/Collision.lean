import Mathlib.Data.Finset.Card
import BindingTables.Lint.EnumCollision
import BindingTables.Proofs.Bindings.Classes

/-! What the collision lint finds in an enum: an error for each value that is only the stem, and
one for each value whose name in scripts an earlier value has already. -/

namespace BindingTables

namespace Enum

/-- The value is called by the stem alone. -/
def isBare (e : Enum) (value : String) : Bool := e.stem ≠ "" ∧ value = e.stem

def scriptName (e : Enum) (value : String) : String := Stem.strip e.stem value

/-- Those of the values that keep a name of their own. -/
def named (e : Enum) (values : List String) : List String := values.filter (!e.isBare ·)

/-- The names that the values have in scripts, each once. -/
def scriptNames (e : Enum) (values : List String) : Finset String :=
  ((e.named values).map e.scriptName).toFinset

/-- The earliest of the values that scripts know under the name. -/
def first? (e : Enum) (values : List String) (name : String) : Option String :=
  (e.named values).find? (e.scriptName · = name)

/-- At place `j` of the enum stands the first of all its values that scripts know under the name. -/
structure FirstAt (e : Enum) (name : String) (j : Nat) (first : String) : Prop where
  at_place : e.valueNames[j]? = some first
  own : e.isBare first = false
  same : e.scriptName first = name
  none_before : ∀ k < j, ∀ other, e.valueNames[k]? = some other → e.isBare other = false →
    e.scriptName other ≠ name

end Enum

/-- The enums that get bindings, each with the place that it is declared in. -/
def Options.boundEnums (o : Options) (api : Api) : List (String × Enum) :=
  api.globalEnums.map ("global_enums", ·)
    ++ (o.boundClasses api).flatMap fun (s, c) => c.enums.map (s!"{s.pathOf c.name}.enums", ·)

namespace Lint.EnumCollision

variable {api : Api} {o : Options} {e : Enum} {parent place value first : String}
  {before after rest : List String} {seen : List (String × String)} {d : Diagnostic}

/-- What is wrong with a value that stands behind others. -/
def remark? (e : Enum) (place : String) (before : List String) (value : String) :
    Option Diagnostic :=
  if e.isBare value then some (report .error (bareMessage e value) place)
  else (e.first? before (e.scriptName value)).map fun first =>
    report .error (clashMessage e first value (e.scriptName value)) place

def remarks (e : Enum) (place : String) (before : List String) : List String → List Diagnostic
  | [] => []
  | value :: rest =>
    (remark? e place before value).toList ++ remarks e place (before ++ [value]) rest

/-- The names noted so far lead to the first values that have them. -/
def Noted (e : Enum) (before : List String) (seen : List (String × String)) : Prop :=
  ∀ name, seen.lookup name = e.first? before name

theorem named_bare (hb : e.isBare value = true) : e.named (before ++ [value]) = e.named before := by
  simp [Enum.named, hb]

theorem named_own (hb : e.isBare value = false) :
    e.named (before ++ [value]) = e.named before ++ [value] := by
  simp [Enum.named, hb]

theorem noted_start : Noted e [] [] := by
  intro name
  rfl

theorem noted_bare (h : Noted e before seen) (hb : e.isBare value = true) :
    Noted e (before ++ [value]) seen := by
  intro name
  rw [h name, Enum.first?, Enum.first?, named_bare hb]

/-- A value whose name is taken notes nothing new. -/
theorem noted_clash (h : Noted e before seen) (hb : e.isBare value = false)
    (hs : seen.lookup (e.scriptName value) = some first) : Noted e (before ++ [value]) seen := by
  intro name
  rw [h name, Enum.first?, Enum.first?, named_own hb, List.find?_append]
  rw [h, Enum.first?] at hs
  by_cases hn : e.scriptName value = name
  · rw [← hn, hs, Option.some_or]
  · simp [hn]

/-- A value with a new name is the first to have it. -/
theorem noted_new (h : Noted e before seen) (hb : e.isBare value = false)
    (hs : seen.lookup (e.scriptName value) = none) :
    Noted e (before ++ [value]) ((e.scriptName value, value) :: seen) := by
  intro name
  rw [List.lookup_cons, Enum.first?, named_own hb, List.find?_append]
  rw [h, Enum.first?] at hs
  by_cases hn : e.scriptName value = name
  · rw [← hn, hs]
    simp
  · have hne : (name == e.scriptName value) = false := by simpa using Ne.symm hn
    rw [hne, h name, Enum.first?]
    simp [hn]

theorem isBare_iff : e.isBare value = true ↔ e.stem ≠ "" ∧ value = e.stem := by
  simp [Enum.isBare]

theorem checkValues_bare (hb : e.isBare value = true) :
    checkValues e e.stem place seen (value :: rest) =
      report .error (bareMessage e value) place :: checkValues e e.stem place seen rest := by
  rw [checkValues, if_pos (isBare_iff.mp hb)]

theorem checkValues_clash (hb : e.isBare value = false)
    (hs : seen.lookup (e.scriptName value) = some first) :
    checkValues e e.stem place seen (value :: rest) =
      report .error (clashMessage e first value (e.scriptName value)) place
        :: checkValues e e.stem place seen rest := by
  have hstem : ¬ (e.stem ≠ "" ∧ value = e.stem) := by simpa [Enum.isBare] using hb
  rw [Enum.scriptName] at hs ⊢
  rw [checkValues, if_neg hstem]
  simp only [hs]

theorem checkValues_new (hb : e.isBare value = false)
    (hs : seen.lookup (e.scriptName value) = none) :
    checkValues e e.stem place seen (value :: rest) =
      checkValues e e.stem place ((e.scriptName value, value) :: seen) rest := by
  have hstem : ¬ (e.stem ≠ "" ∧ value = e.stem) := by simpa [Enum.isBare] using hb
  rw [Enum.scriptName] at hs ⊢
  rw [checkValues, if_neg hstem]
  simp only [hs]

/-- The names noted on the way decide what the values before decide. -/
theorem checkValues_eq_remarks (h : Noted e before seen) :
    checkValues e e.stem place seen rest = remarks e place before rest := by
  induction rest generalizing before seen with
  | nil => rfl
  | cons value rest ih =>
    rw [remarks, remark?, ← h]
    cases hb : e.isBare value with
    | true =>
      rw [checkValues_bare hb, ih (noted_bare h hb)]
      rfl
    | false =>
      cases hs : seen.lookup (e.scriptName value) with
      | some first =>
        rw [checkValues_clash hb hs, ih (noted_clash h hb hs)]
        rfl
      | none =>
        rw [checkValues_new hb hs, ih (noted_new h hb hs)]
        rfl

/-- The lint remarks on each value as those before it demand. -/
theorem checkEnum_eq_remarks (parent : String) (e : Enum) :
    checkEnum parent e = remarks e s!"{parent}.{e.name}" [] e.valueNames :=
  checkValues_eq_remarks noted_start

theorem first?_eq_none_iff {name : String} :
    e.first? before name = none ↔ name ∉ e.scriptNames before := by
  simp [Enum.first?, Enum.scriptNames, List.find?_eq_none]

/-- A value is remarked on, or it brings a new name. -/
theorem remark?_or_new (e : Enum) (place : String) (before : List String) (value : String) :
    (remark? e place before value).toList.length + (e.scriptNames (before ++ [value])).card
      = (e.scriptNames before).card + 1 := by
  rw [remark?]
  cases hb : e.isBare value with
  | true =>
    rw [Enum.scriptNames, named_bare hb, ← Enum.scriptNames]
    simp [Nat.add_comm]
  | false =>
    have hinsert : e.scriptNames (before ++ [value])
        = insert (e.scriptName value) (e.scriptNames before) := by
      rw [Enum.scriptNames, named_own hb, Enum.scriptNames]
      ext name
      simp
    cases hf : e.first? before (e.scriptName value) with
    | none =>
      rw [hinsert, Finset.card_insert_of_notMem (first?_eq_none_iff.mp hf)]
      simp
    | some first =>
      have hmem : e.scriptName value ∈ e.scriptNames before := by
        by_contra hn
        rw [first?_eq_none_iff.mpr hn] at hf
        cases hf
      rw [hinsert, Finset.insert_eq_of_mem hmem]
      simp [Nat.add_comm]

theorem length_remarks (e : Enum) (place : String) (before rest : List String) :
    (remarks e place before rest).length + (e.scriptNames (before ++ rest)).card
      = (e.scriptNames before).card + rest.length := by
  induction rest generalizing before with
  | nil => simp [remarks]
  | cons value rest ih =>
    have hstep := remark?_or_new e place before value
    have hrest := ih (before ++ [value])
    rw [List.append_assoc, List.singleton_append] at hrest
    rw [remarks, List.length_append, List.length_cons]
    omega

/-- The error that the value at place `i` of the enum gives cause for. -/
inductive Blames (parent : String) (e : Enum) (i : Nat) : Diagnostic → Prop
  | bare {value : String} : e.valueNames[i]? = some value → e.isBare value = true →
    Blames parent e i ⟨.error, "validate",
      s!"value '{value}' of enum '{e.name}' is only its prefix and has no name of its own",
      some s!"{parent}.{e.name}"⟩
  | clash {value first : String} {j : Nat} : e.valueNames[i]? = some value →
    e.isBare value = false → j < i → e.FirstAt (e.scriptName value) j first →
    Blames parent e i ⟨.error, "validate",
      s!"values '{first}' and '{value}' of enum '{e.name}' both bind as '{e.scriptName value}'",
      some s!"{parent}.{e.name}"⟩

/-- From place `start` on, the places whose values are reported, in order and each once. -/
structure Reports (parent : String) (e : Enum) (start : Nat) (places : List Nat)
    (ds : List Diagnostic) : Prop where
  blames : List.Forall₂ (Blames parent e) places ds
  ordered : places.Pairwise (· < ·)
  onwards : ∀ i ∈ places, start ≤ i
  complete : ∀ i d, start ≤ i → Blames parent e i d → i ∈ places

/-- The first of the values before is the first of all, if it is there. -/
theorem first?_eq_some_iff {name : String} (hv : e.valueNames = before ++ rest) :
    e.first? before name = some first ↔ ∃ j < before.length, e.FirstAt name j first := by
  have hat {k : Nat} (hk : k < before.length) : e.valueNames[k]? = some before[k] := by
    rw [hv, List.getElem?_append_left hk, List.getElem?_eq_getElem hk]
  rw [Enum.first?, Enum.named, List.find?_filter, List.find?_eq_some_iff_getElem]
  constructor
  · rintro ⟨hfirst, j, hj, rfl, hbefore⟩
    obtain ⟨hown, hsame⟩ : e.isBare before[j] = false ∧ e.scriptName before[j] = name := by
      simpa using hfirst
    refine ⟨j, hj, hat hj, hown, hsame, ?_⟩
    intro k hk other hother hnamed hname
    obtain rfl : before[k] = other := Option.some.inj ((hat (hk.trans hj)).symm.trans hother)
    simpa [hnamed, hname] using hbefore k hk
  · rintro ⟨j, hj, hfirst⟩
    obtain rfl : before[j] = first := Option.some.inj ((hat hj).symm.trans hfirst.at_place)
    refine ⟨by simp [hfirst.own, hfirst.same], j, hj, rfl, ?_⟩
    intro k hk
    have hother := hfirst.none_before k hk _ (hat (hk.trans hj))
    cases hb : e.isBare before[k] with
    | true => simp
    | false => simp [hother hb]

/-- What is wrong with a value lies with it and those before it. -/
theorem remark?_eq_some_iff (hv : e.valueNames = before ++ value :: rest) :
    remark? e s!"{parent}.{e.name}" before value = some d ↔ Blames parent e before.length d := by
  have hat : e.valueNames[before.length]? = some value := by simp [hv]
  rw [remark?]
  cases hb : e.isBare value with
  | true =>
    rw [if_pos rfl, Option.some.injEq]
    constructor
    · rintro rfl
      exact .bare hat hb
    · intro h
      cases h with
      | bare hother _ =>
        obtain rfl := Option.some.inj (hat.symm.trans hother)
        rfl
      | clash hother hnamed _ _ =>
        obtain rfl := Option.some.inj (hat.symm.trans hother)
        rw [hb] at hnamed
        cases hnamed
  | false =>
    rw [if_neg Bool.false_ne_true, Option.map_eq_some_iff]
    constructor
    · rintro ⟨first, hfirst, rfl⟩
      obtain ⟨j, hj, hearliest⟩ := (first?_eq_some_iff hv).mp hfirst
      exact .clash hat hb hj hearliest
    · intro h
      cases h with
      | bare hother hbare =>
        obtain rfl := Option.some.inj (hat.symm.trans hother)
        rw [hb] at hbare
        cases hbare
      | clash hother _ hj hearliest =>
        obtain rfl := Option.some.inj (hat.symm.trans hother)
        exact ⟨_, (first?_eq_some_iff hv).mpr ⟨_, hj, hearliest⟩, rfl⟩

theorem Blames.lt_length {i : Nat} (h : Blames parent e i d) :
    i < e.valueNames.length := by
  cases h with
  | bare hat _ => exact (List.getElem?_eq_some_iff.mp hat).1
  | clash hat _ _ _ => exact (List.getElem?_eq_some_iff.mp hat).1

theorem Blames.isError {i : Nat} (h : Blames parent e i d) : d.isError = true := by
  cases h with
  | bare => rfl
  | clash => rfl

/-- A value that gives no cause is passed over. -/
theorem Reports.pass {start : Nat} {places : List Nat} {ds : List Diagnostic}
    (h : Reports parent e (start + 1) places ds) (hquiet : ∀ d, ¬ Blames parent e start d) :
    Reports parent e start places ds := by
  refine ⟨h.blames, h.ordered, fun i hi => Nat.le_of_succ_le (h.onwards i hi), ?_⟩
  intro i d hi hblames
  rcases hi.eq_or_lt with rfl | hlt
  · exact absurd hblames (hquiet d)
  · exact h.complete i d hlt hblames

/-- A value that gives cause is reported before all that stand behind it. -/
theorem Reports.report {start : Nat} {places : List Nat} {ds : List Diagnostic}
    (h : Reports parent e (start + 1) places ds) (hd : Blames parent e start d) :
    Reports parent e start (start :: places) (d :: ds) := by
  refine ⟨.cons hd h.blames, .cons h.onwards h.ordered, ?_, ?_⟩
  · intro i hi
    rcases List.mem_cons.mp hi with rfl | hi
    · exact le_refl _
    · exact Nat.le_of_succ_le (h.onwards i hi)
  · intro i d hi hblames
    rcases hi.eq_or_lt with rfl | hlt
    · exact List.mem_cons_self
    · exact List.mem_cons_of_mem _ (h.complete i d hlt hblames)

/-- The remarks on the values from a place on are on the places that give cause for them. -/
theorem reports_remarks (hv : e.valueNames = before ++ rest) :
    ∃ places, Reports parent e before.length places
      (remarks e s!"{parent}.{e.name}" before rest) := by
  induction rest generalizing before with
  | nil =>
    refine ⟨[], .nil, .nil, by simp, ?_⟩
    intro i d hi hblames
    have hlt := hblames.lt_length
    rw [hv, List.append_nil] at hlt
    omega
  | cons value rest ih =>
    have hv' : e.valueNames = (before ++ [value]) ++ rest := by simp [hv]
    obtain ⟨places, hrest⟩ := ih hv'
    rw [List.length_append, List.length_singleton] at hrest
    rw [remarks]
    cases hr : remark? e s!"{parent}.{e.name}" before value with
    | none =>
      refine ⟨places, hrest.pass ?_⟩
      intro d hblames
      rw [(remark?_eq_some_iff hv).mpr hblames] at hr
      cases hr
    | some d => exact ⟨_, hrest.report ((remark?_eq_some_iff hv).mp hr)⟩

/-- The findings are the errors that the values of the enum give cause for, one for each such value
in the order of the values, and no others. -/
structure Exact (parent : String) (e : Enum) (ds : List Diagnostic) : Prop where
  count : ds.length = e.valueNames.countP e.isBare
    + (e.named e.valueNames).length - (e.scriptNames e.valueNames).card
  reports : ∃ places : List Nat, places.Pairwise (· < ·) ∧
    List.Forall₂ (Blames parent e) places ds ∧ ∀ i d, Blames parent e i d → i ∈ places

theorem card_scriptNames_le (e : Enum) (values : List String) :
    (e.scriptNames values).card ≤ (e.named values).length := by
  have h := List.toFinset_card_le ((e.named values).map e.scriptName)
  rwa [List.length_map] at h

theorem length_eq_bare_add_named (e : Enum) (values : List String) :
    values.length = values.countP e.isBare + (e.named values).length := by
  rw [Enum.named, ← List.countP_eq_length_filter]
  simpa using List.length_eq_countP_add_countP e.isBare (l := values)

theorem length_checkEnum (parent : String) (e : Enum) : (checkEnum parent e).length
    + (e.scriptNames e.valueNames).card = e.valueNames.length := by
  have h := length_remarks e s!"{parent}.{e.name}" [] e.valueNames
  rw [← checkEnum_eq_remarks] at h
  simpa [Enum.scriptNames, Enum.named] using h

theorem checkEnum_exact (parent : String) (e : Enum) : Exact parent e (checkEnum parent e) := by
  refine ⟨?_, ?_⟩
  · have hlen := length_checkEnum parent e
    have hsplit := length_eq_bare_add_named e e.valueNames
    omega
  · obtain ⟨places, hall⟩ : ∃ places, Reports parent e 0 places (remarks e _ [] e.valueNames) :=
      reports_remarks (List.nil_append _).symm
    rw [checkEnum_eq_remarks]
    exact ⟨places, hall.ordered, hall.blames, fun i d => hall.complete i d (Nat.zero_le i)⟩

theorem isError_of_mem_checkEnum (hd : d ∈ checkEnum parent e) : d.isError = true := by
  obtain ⟨places, -, hblames, -⟩ := (checkEnum_exact parent e).reports
  obtain ⟨k, hk, rfl⟩ := List.getElem_of_mem hd
  exact (hblames.get (hblames.length_eq ▸ hk) hk).isError

theorem check_eq_flatMap :
    check api o = (o.boundEnums api).flatMap fun (parent, e) => checkEnum parent e := by
  have hpath (s : Section) (c : Class) :
      s!"{s.key}.{c.name}.enums" = s!"{s.pathOf c.name}.enums" := by
    rw [Section.pathOf_eq]
    rfl
  rw [check, Options.boundEnums, List.flatMap_append, List.flatMap_map, List.flatMap_assoc]
  simp only [List.flatMap_map, hpath]

/-- An enum that is not remarked on has a name for each of its values. -/
theorem checkEnum_eq_nil (parent : String) (h : checkEnum parent e = []) :
    (∀ value ∈ e.valueNames, e.isBare value = false) ∧
      (e.valueNames.map e.scriptName).Nodup := by
  have hlen := length_checkEnum parent e
  have hsplit := length_eq_bare_add_named e e.valueNames
  have hcard := card_scriptNames_le e e.valueNames
  rw [h, List.length_nil] at hlen
  have hbare : ∀ value ∈ e.valueNames, e.isBare value = false := by
    have hzero : e.valueNames.countP e.isBare = 0 := by omega
    simpa using hzero
  have hnamed : e.named e.valueNames = e.valueNames := by
    rw [Enum.named, List.filter_eq_self]
    intro value hv
    simp [hbare value hv]
  refine ⟨hbare, ?_⟩
  rw [Enum.scriptNames, hnamed] at hlen
  have hmulti : (Multiset.ofList (e.valueNames.map e.scriptName)).toFinset.card
      = (Multiset.ofList (e.valueNames.map e.scriptName)).card := by
    rw [Multiset.coe_card, List.length_map]
    simpa using hlen
  exact Multiset.toFinset_card_eq_card_iff_nodup.mp hmulti

end Lint.EnumCollision

end BindingTables

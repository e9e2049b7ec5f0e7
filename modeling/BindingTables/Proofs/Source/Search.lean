import BindingTables.Span

/-! The search for declared names finds the occurrences of a pattern from left to right, and of the
two spacings the first that has enough of them. -/

namespace BindingTables

open BindingTables.Text

variable {pattern cs before : List Char} {m n i j : Nat} {source name : String} {span : Span}

/-- The first occurrence of the pattern in the text stands behind `before`. -/
def FirstAt (pattern cs before : List Char) : Prop :=
  before ++ pattern <+: cs ∧ ∀ earlier, earlier ++ pattern <+: cs → before.length ≤ earlier.length

/-- The occurrence that follows `n` others stands behind `before`; each is the first that starts
where the one before it has ended. -/
inductive NthAt (pattern : List Char) : Nat → List Char → List Char → Prop
  | first {cs before : List Char} : FirstAt pattern cs before → NthAt pattern 0 cs before
  | later {n : Nat} {skipped rest before : List Char} :
    FirstAt pattern (skipped ++ pattern ++ rest) skipped → NthAt pattern n rest before →
    NthAt pattern (n + 1) (skipped ++ pattern ++ rest) (skipped ++ pattern ++ before)

theorem FirstAt.unique {other : List Char} (h : FirstAt pattern cs before)
    (h' : FirstAt pattern cs other) : before = other := by
  have hlen : before.length = other.length := Nat.le_antisymm (h.2 _ h'.1) (h'.2 _ h.1)
  have hbefore := List.prefix_of_prefix_length_le ((List.prefix_append _ _).trans h.1)
    ((List.prefix_append _ _).trans h'.1) (Nat.le_of_eq hlen)
  exact hbefore.eq_of_length hlen

theorem firstAt_nil (h : pattern <+: cs) : FirstAt pattern cs [] :=
  ⟨h, fun _ _ => Nat.zero_le _⟩

theorem firstAt_cons {c : Char} (hc : ¬ pattern <+: c :: cs) (h : FirstAt pattern cs before) :
    FirstAt pattern (c :: cs) (c :: before) := by
  refine ⟨(List.prefix_cons_inj c).mpr h.1, ?_⟩
  intro earlier he
  cases earlier with
  | nil => exact absurd he hc
  | cons d earlier =>
    rw [List.cons_append, List.cons_prefix_cons] at he
    exact Nat.succ_le_succ (h.2 earlier he.2)

theorem NthAt.occurs (h : NthAt pattern n cs before) : before ++ pattern <+: cs := by
  induction h with
  | first h => exact h.1
  | later _ _ ih =>
    rw [List.append_assoc (_ ++ _)]
    exact (List.prefix_append_right_inj _).mpr ih

theorem NthAt.firstAt (h : NthAt pattern 0 cs before) : FirstAt pattern cs before := by
  cases h
  assumption

/-- Behind the first occurrence the count goes on in the rest. -/
theorem NthAt.exists_in_rest {skipped rest : List Char} (hfirst : FirstAt pattern cs skipped)
    (hcs : cs = skipped ++ pattern ++ rest) (h : NthAt pattern (n + 1) cs before) :
    ∃ place, before = skipped ++ pattern ++ place ∧ NthAt pattern n rest place := by
  cases h with
  | @later _ skipped' rest' place hskipped hat =>
    have hsame := hfirst.unique hskipped
    subst hsame
    rw [List.append_cancel_left_eq] at hcs
    subst hcs
    exact ⟨place, rfl, hat⟩

theorem occurrences_busy (busy : Nat) (cs : List Char) (i : Nat) :
    occurrences pattern busy cs i
      = occurrences pattern 0 (cs.drop busy) (i + byteSize (cs.take busy)) := by
  induction cs generalizing busy i with
  | nil => simp [occurrences]
  | cons c cs ih =>
    cases busy with
    | zero => rfl
    | succ busy =>
      rw [occurrences, ih, List.drop_succ_cons, List.take_succ_cons, byteSize, Nat.add_assoc]

theorem occurrences_append (hp : pattern ≠ []) (rest : List Char) (i : Nat) :
    occurrences pattern 0 (pattern ++ rest) i
      = i :: occurrences pattern 0 rest (i + byteSize pattern) := by
  cases pattern with
  | nil => exact absurd rfl hp
  | cons p pattern =>
    have hprefix : (p :: pattern).isPrefixOf (p :: (pattern ++ rest)) = true :=
      List.isPrefixOf_iff_prefix.mpr (List.prefix_append (p :: pattern) rest)
    rw [List.cons_append, occurrences, if_pos hprefix, occurrences_busy]
    simp [byteSize, Nat.add_assoc]

theorem occurrences_passed {c : Char} (hc : ¬ pattern <+: c :: cs) (i : Nat) :
    occurrences pattern 0 (c :: cs) i = occurrences pattern 0 cs (i + c.utf8Size) := by
  rw [occurrences, if_neg (fun h => hc (List.isPrefixOf_iff_prefix.mp h))]

/-- The search ends, or goes on behind the first occurrence. -/
theorem occurrences_cases (hp : pattern ≠ []) (cs : List Char) :
    ((∀ before, ¬ before ++ pattern <+: cs) ∧ ∀ i, occurrences pattern 0 cs i = []) ∨
    ∃ before rest, cs = before ++ pattern ++ rest ∧ FirstAt pattern cs before ∧
      ∀ i, occurrences pattern 0 cs i = (i + byteSize before) ::
        occurrences pattern 0 rest (i + byteSize (before ++ pattern)) := by
  induction cs with
  | nil => exact Or.inl ⟨by simp [hp], fun _ => rfl⟩
  | cons c cs ih =>
    by_cases hc : pattern <+: c :: cs
    · obtain ⟨rest, hrest⟩ := hc
      refine Or.inr ⟨[], rest, by simp [hrest], firstAt_nil ⟨rest, hrest⟩, fun i => ?_⟩
      rw [← hrest, occurrences_append hp]
      rfl
    · rcases ih with ⟨hnone, hnil⟩ | ⟨before, rest, rfl, hfirst, hoccur⟩
      · refine Or.inl ⟨?_, fun i => by rw [occurrences_passed hc, hnil]⟩
        intro before hb
        cases before with
        | nil => exact hc hb
        | cons d before =>
          rw [List.cons_append, List.cons_prefix_cons] at hb
          exact hnone before hb.2
      · refine Or.inr ⟨c :: before, rest, by simp, firstAt_cons hc hfirst, fun i => ?_⟩
        rw [occurrences_passed hc, hoccur]
        simp [byteSize, Nat.add_assoc]

theorem exists_firstAt_iff (hp : pattern ≠ []) :
    (∃ before, FirstAt pattern cs before) ↔ pattern <:+: cs := by
  constructor
  · rintro ⟨before, ⟨rest, hrest⟩, -⟩
    exact ⟨before, rest, hrest⟩
  · rintro ⟨before, rest, hcs⟩
    rcases occurrences_cases hp cs with ⟨hnone, -⟩ | ⟨first, _, -, hfirst, -⟩
    · exact absurd ⟨rest, hcs⟩ (hnone before)
    · exact ⟨first, hfirst⟩

theorem getElem?_occurrences_iff (hp : pattern ≠ []) : (occurrences pattern 0 cs i)[n]? = some j ↔
    ∃ before, NthAt pattern n cs before ∧ i + byteSize before = j := by
  induction n generalizing cs i with
  | zero =>
    rcases occurrences_cases hp cs with ⟨hnone, hnil⟩ | ⟨first, rest, -, hfirst, hoccur⟩
    · have hno : ¬ ∃ before, NthAt pattern 0 cs before ∧ i + byteSize before = j :=
        fun ⟨before, h, _⟩ => hnone before h.occurs
      simp [hnil, hno]
    · rw [hoccur, List.getElem?_cons_zero, Option.some.injEq]
      constructor
      · intro hj
        exact ⟨first, .first hfirst, hj⟩
      · rintro ⟨before, hat, hj⟩
        cases hat with
        | first h => rw [hfirst.unique h, hj]
  | succ n ih =>
    rcases occurrences_cases hp cs with ⟨hnone, hnil⟩ | ⟨first, rest, hcs, hfirst, hoccur⟩
    · have hno : ¬ ∃ before, NthAt pattern (n + 1) cs before ∧ i + byteSize before = j :=
        fun ⟨before, h, _⟩ => hnone before h.occurs
      simp [hnil, hno]
    · rw [hoccur, List.getElem?_cons_succ, ih]
      constructor
      · rintro ⟨before, hat, hj⟩
        rw [hcs] at hfirst ⊢
        refine ⟨_, .later hfirst hat, ?_⟩
        simpa [Nat.add_assoc] using hj
      · rintro ⟨before, hat, hj⟩
        obtain ⟨place, rfl, hplace⟩ := hat.exists_in_rest hfirst hcs
        refine ⟨place, hplace, ?_⟩
        simpa [Nat.add_assoc] using hj

/-- A spelled declaration of the name, behind its key. -/
def spelled (key : List Char) (name : String) : List Char := key ++ '"' :: name.toList ++ ['"']

theorem spelled_ne_nil (key : List Char) (name : String) : spelled key name ≠ [] := by
  simp [spelled]

/-- The span holds the name in the `n`th place where the source declares it under one spacing, and
under the spacings before that one it has no `n`th place. -/
def Declares (source name : String) (n : Nat) (span : Span) : Prop :=
  ∃ others key more before, nameKeys = others ++ key :: more ∧
    (∀ other ∈ others, ∀ place, ¬ NthAt (spelled other name) n source.toList place) ∧
    NthAt (spelled key name) n source.toList before ∧
    span = ⟨byteSize before + byteSize key + 1, byteSize name.toList⟩

theorem declaration?_eq (source name : String) (n : Nat) :
    declaration? source name n = nameKeys.findSome? fun key =>
      (occurrences (spelled key name) 0 source.toList 0)[n]?.map fun i =>
        ⟨i + byteSize key + 1, byteSize name.toList⟩ := by
  simp [declaration?, spelled]

theorem declaration?_eq_some_iff : declaration? source name n = some span ↔
    Declares source name n span := by
  have hnone (key : List Char) :
      (occurrences (spelled key name) 0 source.toList 0)[n]? = none ↔
        ∀ place, ¬ NthAt (spelled key name) n source.toList place := by
    rw [Option.eq_none_iff_forall_ne_some]
    constructor
    · intro h place hat
      exact h _ ((getElem?_occurrences_iff (spelled_ne_nil key name)).mpr ⟨place, hat, rfl⟩)
    · intro h j hj
      obtain ⟨place, hat, -⟩ := (getElem?_occurrences_iff (spelled_ne_nil key name)).mp hj
      exact h place hat
  have hsome (key : List Char) (j : Nat) :
      (occurrences (spelled key name) 0 source.toList 0)[n]? = some j ↔
        ∃ before, NthAt (spelled key name) n source.toList before ∧ 0 + byteSize before = j :=
    getElem?_occurrences_iff (spelled_ne_nil key name)
  rw [declaration?_eq, List.findSome?_eq_some_iff, Declares]
  simp only [Option.map_eq_none_iff, Option.map_eq_some_iff, hnone, hsome]
  constructor
  · rintro ⟨others, key, more, hkeys, ⟨j, ⟨before, hat, rfl⟩, rfl⟩, hothers⟩
    exact ⟨others, key, more, before, hkeys, hothers, hat, by simp⟩
  · rintro ⟨others, key, more, before, hkeys, hothers, hat, rfl⟩
    exact ⟨others, key, more, hkeys, ⟨_, ⟨before, hat, rfl⟩, by simp⟩, hothers⟩

/-- A name has an `n`th declaration if it has so many under any one spacing. -/
theorem isSome_declaration?_iff : (declaration? source name n).isSome ↔
    ∃ key ∈ nameKeys, ∃ place, NthAt (spelled key name) n source.toList place := by
  rw [declaration?_eq, List.findSome?_isSome_iff]
  constructor
  · rintro ⟨key, hkey, hsome⟩
    rw [Option.isSome_map] at hsome
    obtain ⟨j, hj⟩ := Option.isSome_iff_exists.mp hsome
    obtain ⟨place, hat, -⟩ := (getElem?_occurrences_iff (spelled_ne_nil key name)).mp hj
    exact ⟨key, hkey, place, hat⟩
  · rintro ⟨key, hkey, place, hat⟩
    have hj := (getElem?_occurrences_iff (i := 0) (spelled_ne_nil key name)).mpr ⟨place, hat, rfl⟩
    exact ⟨key, hkey, by simp [hj]⟩

/-! Two declarations that follow each other. -/

theorem NthAt.exists_of_le (h : NthAt pattern n cs before) (hm : m ≤ n) :
    ∃ place, NthAt pattern m cs place := by
  induction h generalizing m with
  | first h =>
    rw [Nat.le_zero.mp hm]
    exact ⟨_, .first h⟩
  | later hskipped _ ih =>
    cases m with
    | zero => exact ⟨_, .first hskipped⟩
    | succ m =>
      obtain ⟨place, hplace⟩ := ih (Nat.le_of_succ_le_succ hm)
      exact ⟨_, .later hskipped hplace⟩

theorem NthAt.byteSize_lt {next : List Char} (hp : pattern ≠ []) (h : NthAt pattern m cs before)
    (hnext : NthAt pattern n cs next) (hmn : m < n) : byteSize before < byteSize next := by
  induction hnext generalizing m before with
  | first => exact absurd hmn (Nat.not_lt_zero m)
  | later hskipped _ ih =>
    cases m with
    | zero =>
      obtain ⟨p, more, rfl⟩ := List.exists_cons_of_ne_nil hp
      have hpos := p.utf8Size_pos
      rw [h.firstAt.unique hskipped]
      simp only [byteSize_append, byteSize]
      omega
    | succ m =>
      obtain ⟨place, rfl, hplace⟩ := h.exists_in_rest hskipped rfl
      have hlt := ih hplace (Nat.lt_of_succ_lt_succ hmn)
      simp only [byteSize_append]
      omega

/-- The source declares the name exactly once under one spacing, and again under a later one. -/
def MixesSpacings (source name : String) : Prop :=
  ∃ key key', [key, key'].Sublist nameKeys ∧
    (∃ place, NthAt (spelled key name) 0 source.toList place) ∧
    (∀ place, ¬ NthAt (spelled key name) 1 source.toList place) ∧
    ∃ place, NthAt (spelled key' name) 1 source.toList place

/-- The second declaration stands behind the first, if one spacing has both. -/
theorem Declares.start_lt {first second : Span} (h : Declares source name 0 first)
    (h' : Declares source name 1 second) (hnot : ¬ MixesSpacings source name) :
    first.start < second.start := by
  obtain ⟨others, key, more, before, hkeys, hothers, hat, rfl⟩ := h
  obtain ⟨others', key', more', before', hkeys', hothers', hat', rfl⟩ := h'
  have hsame : key = key' := by
    rcases List.append_eq_append_iff.mp (hkeys.symm.trans hkeys') with
      ⟨mid, rfl, hmid⟩ | ⟨mid, rfl, hmid⟩
    · cases mid with
      | nil => exact (List.cons.inj hmid).1
      | cons k mid =>
        cases (List.cons.inj hmid).1
        have hsub : [key, key'].Sublist nameKeys := by
          rw [hkeys', List.append_assoc]
          apply List.sublist_append_of_sublist_right
          rw [List.cons_append, List.cons_sublist_cons, List.singleton_sublist]
          simp
        exact absurd ⟨key, key', hsub, ⟨before, hat⟩, hothers' key (by simp), before', hat'⟩ hnot
    · cases mid with
      | nil => exact (List.cons.inj hmid).1.symm
      | cons k mid =>
        cases (List.cons.inj hmid).1
        obtain ⟨place, hplace⟩ := hat'.exists_of_le (Nat.zero_le 1)
        exact absurd hplace (hothers key' (by simp) place)
  subst hsame
  have hlt := hat.byteSize_lt (spelled_ne_nil key name) hat' Nat.zero_lt_one
  simp only
  omega

end BindingTables

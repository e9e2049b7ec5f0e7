import BindingTables.Proofs.Version.Grammar

/-! The numbers that a version text has between its points, against those of the version. One of 32
bits is kept in its place; a larger one can only be the status, which is not kept. -/

namespace BindingTables.Version

open BindingTables.Text

variable {s : String} {cs : List Char} {i n : Nat} {p : Parts} {v : Version}

def segmentsOf (s : String) : List (List Char) := split '.' s.toList

/-- Decimal digits and nothing else. -/
def IsNumeral (cs : List Char) : Prop := cs ≠ [] ∧ ∀ d ∈ cs, d.isDigit = true

instance (cs : List Char) : Decidable (IsNumeral cs) :=
  decidable_of_iff (cs ≠ [] ∧ cs.all Char.isDigit = true) (by rw [List.all_eq_true, IsNumeral])

/-- The number that decimal digits stand for. -/
def numeralValue (cs : List Char) : Nat := Nat.ofDigitChars 10 cs 0

/-- Decimal digits for a number of more than 32 bits. -/
def IsOversized (cs : List Char) : Prop := IsNumeral cs ∧ UInt32.size ≤ numeralValue cs

instance (cs : List Char) : Decidable (IsOversized cs) :=
  inferInstanceAs (Decidable (IsNumeral cs ∧ UInt32.size ≤ numeralValue cs))

/-- Each number of the text is the version's number in the same place. -/
def KeepsNumbers (s : String) (v : Version) : Prop :=
  ∀ (i : Nat) cs, (segmentsOf s)[i]? = some cs → IsNumeral cs →
    v.numbers[i]? = some (numeralValue cs)

theorem IsNumeral.isLiteral (h : IsNumeral cs) (hlt : numeralValue cs < UInt32.size) :
    IsLiteral cs (numeralValue cs) := ⟨cs, .inl rfl, h.1, h.2, rfl, hlt⟩

theorem IsLiteral.eq_numeralValue (h : IsLiteral cs n) (hcs : IsNumeral cs) :
    n = numeralValue cs := by
  obtain ⟨digits, rfl | rfl, -, -, hvalue, -⟩ := h
  · exact hvalue.symm
  · cases hcs.2 '+' List.mem_cons_self

theorem IsOversized.not_isLiteral (h : IsOversized cs) : ¬ IsLiteral cs n := by
  intro hliteral
  have hvalue := hliteral.eq_numeralValue h.1
  obtain ⟨-, -, -, -, -, hlt⟩ := hliteral
  exact absurd (hvalue ▸ hlt) (Nat.not_lt.mpr h.2)

theorem lt_size_of_getElem?_numbers (h : v.numbers[i]? = some n) : n < UInt32.size := by
  have hmem := List.mem_of_getElem? h
  simp only [numbers, List.mem_cons, List.not_mem_nil, or_false] at hmem
  rcases hmem with rfl | rfl | rfl
  · exact v.major.toNat_lt
  · exact v.minor.toNat_lt
  · exact v.patch.toNat_lt

namespace Parts.Spells

variable (h : p.Spells v)
include h

/-- A literal that stands in a version text stands where the version has its number. -/
theorem getElem?_numbers (hi : p.segments[i]? = some cs) (hcs : IsLiteral cs n) :
    ∃ m, v.numbers[i]? = some m ∧ IsLiteral cs m := by
  have hstatus : cs ∉ p.status := fun hmem => (h.status cs hmem).2.2 n hcs
  match i with
  | 0 =>
    cases hi
    exact ⟨_, rfl, h.major⟩
  | 1 =>
    cases hi
    exact ⟨_, rfl, h.minor⟩
  | i + 2 =>
    have hrest : (p.patch.toList ++ p.status.toList)[i]? = some cs := hi
    rw [List.getElem?_append] at hrest
    split at hrest
    · have hmem := Option.mem_toList.mp (List.mem_of_getElem? hrest)
      obtain rfl : i = 0 := by
        have hlength := Option.length_toList_le (o := p.patch)
        omega
      exact ⟨_, rfl, h.patch cs hmem⟩
    · exact absurd (Option.mem_toList.mp (List.mem_of_getElem? hrest)) hstatus

theorem kept_iff (hi : p.segments[i]? = some cs) (hcs : IsNumeral cs) :
    v.numbers[i]? = some (numeralValue cs) ↔ numeralValue cs < UInt32.size := by
  constructor
  · exact lt_size_of_getElem?_numbers
  · intro hlt
    obtain ⟨m, hm, hliteral⟩ := h.getElem?_numbers hi (hcs.isLiteral hlt)
    rw [hm, hliteral.eq_numeralValue hcs]

theorem status_of_isOversized (hmem : cs ∈ p.segments) (hcs : IsOversized cs) :
    p.status = some cs := by
  simp only [Parts.segments, List.mem_cons, List.mem_append, Option.mem_toList] at hmem
  rcases hmem with rfl | rfl | hpatch | hstatus
  · exact absurd h.major hcs.not_isLiteral
  · exact absurd h.minor hcs.not_isLiteral
  · exact absurd (h.patch cs hpatch) hcs.not_isLiteral
  · exact hstatus

end Parts.Spells

theorem exists_spells_of_parse? (h : parse? s = some v) :
    ∃ p : Parts, p.text = s.toList ∧ p.Spells v ∧ p.segments = segmentsOf s := by
  obtain ⟨p, htext, hspells⟩ := (parse?_eq_some_iff s).mp h
  exact ⟨p, htext, hspells, by rw [segmentsOf, ← htext, hspells.split_text]⟩

theorem keepsNumbers_iff (h : parse? s = some v) :
    KeepsNumbers s v ↔ ∀ cs ∈ segmentsOf s, ¬ IsOversized cs := by
  obtain ⟨p, -, hspells, hsegments⟩ := exists_spells_of_parse? h
  constructor
  · intro hkeeps cs hcs hover
    obtain ⟨i, hi⟩ := List.getElem?_of_mem hcs
    have hlt := lt_size_of_getElem?_numbers (hkeeps i cs hi hover.1)
    exact absurd hlt (Nat.not_lt.mpr hover.2)
  · intro hnone i cs hi hcs
    have hlt : numeralValue cs < UInt32.size := by
      by_contra hge
      exact hnone cs (List.mem_of_getElem? hi) ⟨hcs, Nat.not_lt.mp hge⟩
    rw [← hsegments] at hi
    exact (hspells.kept_iff hi hcs).mpr hlt

/-- A version has in its place each number of its text that is below 2^32, and no other, so none is
lost just if there is no larger one. A text with a larger one is read only if this stands for the
status, behind two or three numbers, and then as if it were not there. -/
theorem numbers_kept_exactly (s : String) :
    (∀ v, parse? s = some v →
      (KeepsNumbers s v ↔ ∀ cs ∈ segmentsOf s, ¬ IsOversized cs) ∧
      ∀ (i : Nat) cs, (segmentsOf s)[i]? = some cs → IsNumeral cs →
        (v.numbers[i]? = some (numeralValue cs) ↔ numeralValue cs < UInt32.size)) ∧
    ∀ cs ∈ segmentsOf s, IsOversized cs → ∀ v, parse? s = some v ↔
      ∃ p : Parts, p.text = s.toList ∧ p.status = some cs ∧ p.Spells v ∧
        parse? (.ofList (Parts.text { p with status := none })) = some v := by
  refine ⟨fun v h => ⟨keepsNumbers_iff h, ?_⟩, fun cs hcs hover v => ⟨fun h => ?_, ?_⟩⟩
  · intro i cs hi
    obtain ⟨p, -, hspells, hsegments⟩ := exists_spells_of_parse? h
    rw [← hsegments] at hi
    exact hspells.kept_iff hi
  · obtain ⟨p, htext, hspells, hsegments⟩ := exists_spells_of_parse? h
    rw [← hsegments] at hcs
    refine ⟨p, htext, hspells.status_of_isOversized hcs hover, hspells, ?_⟩
    rw [parse?_eq_some_iff, String.toList_ofList]
    exact ⟨_, rfl, { hspells with status := by simp }⟩
  · rintro ⟨p, htext, -, hspells, -⟩
    exact (parse?_eq_some_iff s).mpr ⟨p, htext, hspells⟩

/-- The third number is the least that has more than 32 bits. -/
def largePatch : String := "4.1.4294967296"

theorem isOversized_largePatch : IsOversized "4294967296".toList := by decide

theorem parse?_largePatch : parse? largePatch = some ⟨4, 1, 0⟩ := by decide

theorem largePatch_numbers_kept_exactly :
    parse? largePatch = some ⟨4, 1, 0⟩ ∧
      (KeepsNumbers largePatch ⟨4, 1, 0⟩ ↔ ∀ cs ∈ segmentsOf largePatch, ¬ IsOversized cs) ∧
      ((numbers ⟨4, 1, 0⟩)[1]? = some (numeralValue ['1']) ↔ numeralValue ['1'] < UInt32.size) ∧
      IsOversized "4294967296".toList ∧
      ∃ p : Parts, p.text = largePatch.toList ∧ p.status = some "4294967296".toList ∧
        p.Spells ⟨4, 1, 0⟩ ∧
        parse? (.ofList (Parts.text { p with status := none })) = some ⟨4, 1, 0⟩ := by
  obtain ⟨hkept, hover⟩ := numbers_kept_exactly largePatch
  obtain ⟨hall, heach⟩ := hkept _ parse?_largePatch
  exact ⟨parse?_largePatch, hall, heach 1 ['1'] (by decide) (by decide),
    isOversized_largePatch,
    (hover _ (by decide) isOversized_largePatch _).mp parse?_largePatch⟩

/-- The number is taken for a status, and the version has a zero in its place. -/
theorem large_patch_is_discarded :
    parse? largePatch = some ⟨4, 1, 0⟩ ∧ ¬ KeepsNumbers largePatch ⟨4, 1, 0⟩ := by
  refine ⟨parse?_largePatch, fun hkeeps => ?_⟩
  have hkept := hkeeps 2 "4294967296".toList (by decide) isOversized_largePatch.1
  exact absurd (lt_size_of_getElem?_numbers hkept) (Nat.not_lt.mpr isOversized_largePatch.2)

end BindingTables.Version

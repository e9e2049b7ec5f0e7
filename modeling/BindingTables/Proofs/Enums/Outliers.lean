import Mathlib.Data.List.Nodup
import BindingTables.Bindings.Lowering
import BindingTables.Proofs.Enums.Stem

/-! The values that do not start with the stem of their enum. One is tolerated at each place of the
stem, which is not one in all: there can be as many of them as the stem has bytes, and no more. -/

namespace BindingTables

open BindingTables.Text

namespace Stem

variable {α : Type} {stem value first : String} {rest values : List String} {i j n : Nat}

/-- The value does not start with the stem. -/
def Lacks (stem value : String) : Prop := ¬ stem.toList <+: value.toList

instance : DecidablePred (Lacks stem) := fun _ => inferInstanceAs (Decidable (¬ _))

/-- The value has not got the byte that the stem has at place `i`. -/
def Misses (stem : String) (i : Nat) (value : String) : Prop := (bytes value)[i]? ≠ (bytes stem)[i]?

instance : DecidablePred (Misses stem i) := fun _ => inferInstanceAs (Decidable (_ ≠ _))

theorem strip_of_lacks (h : Lacks stem value) :
    strip stem value = .ofList (markDigit value.toList) := by
  have hnone : dropStem? stem.toList value.toList = none := by
    rw [Option.eq_none_iff_forall_not_mem]
    intro more hmore
    exact h ⟨more, (dropStem?_eq_some_iff.mp hmore).symm⟩
  rw [strip, hnone]

/-- A value without a stem that ends in no word misses one of its bytes: to have them all is to have
its characters. -/
theorem exists_misses_of_lacks (hwhole : Whole stem.toList) (h : Lacks stem value) :
    ∃ i < (bytes stem).length, Misses stem i value := by
  by_contra hall
  rcases hwhole with hnil | hlast
  · rw [Lacks, hnil] at h
    exact h List.nil_prefix
  · obtain ⟨init, hinit⟩ := List.getLast?_eq_some_iff.mp hlast
    refine h (prefix_of_bytes (by decide) hinit ?_)
    rw [List.prefix_iff_getElem?]
    intro i hi
    rw [← List.getElem?_eq_getElem hi]
    by_contra hne
    exact hall ⟨i, hi, hne⟩

theorem getElem?_ofValues (hi : i < (bytes (ofValues (first :: rest))).length) :
    (bytes (ofValues (first :: rest)))[i]? = (bytes first)[i]? := by
  rw [length_bytes_ofValues] at hi
  rw [bytes_ofValues, List.getElem?_take_of_lt hi]

/-- At each place of the stem there is one outlier at most. -/
theorem countP_misses_le (hi : i < (bytes (ofValues values)).length) :
    values.countP (Misses (ofValues values) i ·) ≤ 1 := by
  cases values with
  | nil => exact Nat.zero_le 1
  | cons first rest =>
    refine Nat.le_trans (List.countP_mono_left ?_) ((admissible_ofValues first rest).shared i hi)
    intro v _ hv
    rw [decide_eq_true_eq, Misses, getElem?_ofValues hi] at hv
    exact decide_eq_true (.inr hv)

theorem countP_or_le (p q : α → Bool) (xs : List α) :
    xs.countP (fun x => p x || q x) ≤ xs.countP p + xs.countP q := by
  induction xs with
  | nil => exact Nat.le_refl 0
  | cons x xs ih =>
    simp only [List.countP_cons]
    cases p x <;> cases q x <;> simp <;> omega

/-- Where each place has one at most, there are no more in all than places. -/
theorem countP_exists_le {p : Nat → α → Prop} [∀ i, DecidablePred (p i)] {xs : List α}
    (h : ∀ i < n, xs.countP (p i ·) ≤ 1) : xs.countP (fun x => ∃ i < n, p i x) ≤ n := by
  induction n with
  | zero => simp
  | succ n ih =>
    have hsplit : xs.countP (fun x => ∃ i < n + 1, p i x)
        = xs.countP fun x => decide (∃ i < n, p i x) || decide (p n x) := by
      apply List.countP_congr
      intro x _
      simp only [Bool.or_eq_true, decide_eq_true_eq]
      exact Nat.exists_lt_succ_right
    have hor := countP_or_le (fun x => decide (∃ i < n, p i x)) (fun x => decide (p n x)) xs
    have hfront := ih fun i hi => h i (by omega)
    have hlast := h n (by omega)
    rw [hsplit]
    omega

theorem whole_ofValues (values : List String) : Whole (ofValues values).toList := by
  cases values with
  | nil => exact .inl rfl
  | cons first rest => exact (admissible_ofValues first rest).whole

/-- No more values lack the stem than it has bytes. -/
theorem countP_lacks_le (values : List String) :
    values.countP (Lacks (ofValues values)) ≤ (bytes (ofValues values)).length := by
  refine Nat.le_trans (List.countP_mono_left ?_)
    (countP_exists_le (p := Misses (ofValues values)) fun i hi => countP_misses_le hi)
  intro v _ hv
  rw [decide_eq_true_eq] at hv
  exact decide_eq_true (exists_misses_of_lacks (whole_ofValues values) hv)

/-- A name that is letters but for an underscore at its end. -/
def ladder (n : Nat) : List Char := List.replicate n 'A' ++ ['_']

/-- The name with another letter at place `j`. -/
def stray (n j : Nat) : String := .ofList ((ladder n).set j 'B')

def strays (n : Nat) : List String := (List.range (n + 1)).map (stray n)

theorem length_ladder (n : Nat) : (ladder n).length = n + 1 := by simp [ladder]

theorem mem_ladder {c : Char} (h : c ∈ ladder n) : c = 'A' ∨ c = '_' := by
  rw [ladder, List.mem_append, List.mem_singleton] at h
  exact h.imp_left List.eq_of_mem_replicate

theorem bytes_ladder (n : Nat) :
    bytes (.ofList (ladder n)) = (ladder n).map fun c => c.toNat.toUInt8 := by
  apply bytes_of_ascii
  intro c hc
  rcases mem_ladder hc with rfl | rfl <;> decide

theorem bytes_stray (n j : Nat) :
    bytes (stray n j) = ((ladder n).set j 'B').map fun c => c.toNat.toUInt8 := by
  apply bytes_of_ascii
  intro c hc
  rcases List.mem_or_eq_of_mem_set hc with hc | rfl
  · rcases mem_ladder hc with rfl | rfl <;> decide
  · decide

theorem departs_stray_iff (hi : i < n + 1) :
    Departs (.ofList (ladder n)) i (stray n j) ↔ j = i := by
  have hlength : ¬ (bytes (stray n j)).length < i + 1 := by
    rw [bytes_stray, List.length_map, List.length_set, length_ladder]
    omega
  rw [Departs, or_iff_right hlength, bytes_stray, bytes_ladder, List.getElem?_map,
    List.getElem?_map]
  constructor
  · intro hne
    by_contra hji
    exact hne (by rw [List.getElem?_set_ne hji])
  · rintro rfl
    have hj : j < (ladder n).length := by rwa [length_ladder]
    rw [List.getElem?_set_self hj, List.getElem?_eq_getElem hj]
    rcases mem_ladder (List.getElem_mem hj) with hletter | hletter
    · rw [hletter]
      decide
    · rw [hletter]
      decide

theorem admissible_ladder (n : Nat) :
    Admissible (.ofList (ladder n)) (strays n) (.ofList (ladder n)) := by
  refine ⟨List.prefix_rfl, .inr (by simp [ladder]), ?_⟩
  intro i hi
  rw [bytes_ladder, List.length_map, length_ladder] at hi
  have hself : ¬ Departs (.ofList (ladder n)) i (.ofList (ladder n)) := by
    rw [Departs, not_or, bytes_ladder, List.length_map, length_ladder]
    exact ⟨by omega, fun hne => hne rfl⟩
  have honce : (strays n).countP (Departs (.ofList (ladder n)) i ·)
      = (List.range (n + 1)).count i := by
    rw [strays, List.countP_map, List.count]
    apply List.countP_congr
    intro j _
    simp [departs_stray_iff hi]
  rw [List.countP_cons_of_neg (by simpa using hself), honce]
  exact List.nodup_iff_count_le_one.mp List.nodup_range i

theorem ofValues_ladder (n : Nat) :
    ofValues (.ofList (ladder n) :: strays n) = .ofList (ladder n) := by
  have hbegins := prefix_of_admissible (admissible_ladder n)
  have hleads := (admissible_ofValues (.ofList (ladder n)) (strays n)).leads
  rw [← String.toList_inj]
  exact (hbegins.eq_of_length_le hleads.length_le).symm

theorem lacks_stray (hj : j < n + 1) : Lacks (.ofList (ladder n)) (stray n j) := by
  intro hprefix
  rw [String.toList_ofList, stray, String.toList_ofList] at hprefix
  have hsame := hprefix.eq_of_length (by rw [List.length_set])
  have hmem : 'B' ∈ ladder n := by
    rw [hsame]
    exact List.mem_set (by rwa [length_ladder]) 'B'
  rcases mem_ladder hmem with hletter | hletter <;> cases hletter

/-- As many values as the stem has bytes may lack it, however long it is. -/
theorem exists_countP_lacks (n : Nat) : ∃ values,
    (bytes (ofValues values)).length = n + 1 ∧ values.countP (Lacks (ofValues values)) = n + 1 := by
  refine ⟨.ofList (ladder n) :: strays n, ?_, ?_⟩
  · rw [ofValues_ladder, bytes_ladder, List.length_map, length_ladder]
  · have hself : ¬ Lacks (.ofList (ladder n)) (.ofList (ladder n)) := fun h => h List.prefix_rfl
    have hall : ∀ v ∈ strays n, decide (Lacks (.ofList (ladder n)) v) = true := by
      intro v hv
      obtain ⟨j, hj, rfl⟩ := List.mem_map.mp hv
      exact decide_eq_true (lacks_stray (List.mem_range.mp hj))
    rw [ofValues_ladder, List.countP_cons_of_neg (by simpa using hself),
      List.countP_eq_length.mpr hall, strays, List.length_map, List.length_range]

end Stem

/-- One outlier is tolerated at each place of the stem, so no more values lack the stem than it has
bytes, and that many can. In a table, no more entries than that are without the stem, and they have
the name of the value in full. -/
theorem outliers_one_at_each_place :
    (∀ values,
      (∀ i < (bytes (Stem.ofValues values)).length,
        values.countP (Stem.Misses (Stem.ofValues values) i ·) ≤ 1) ∧
      values.countP (Stem.Lacks (Stem.ofValues values)) ≤ (bytes (Stem.ofValues values)).length) ∧
    (∀ n, ∃ values, (bytes (Stem.ofValues values)).length = n + 1 ∧
      values.countP (Stem.Lacks (Stem.ofValues values)) = n + 1) ∧
    ∀ e : Enum,
      e.lower.values.countP (Stem.Lacks e.lower.stem ·.name) ≤ (bytes e.lower.stem).length ∧
      ∀ v ∈ e.lower.values, Stem.Lacks e.lower.stem v.name →
        v.scriptName = .ofList (Stem.markDigit v.name.toList) := by
  refine ⟨fun values => ⟨fun i => Stem.countP_misses_le, Stem.countP_lacks_le values⟩,
    Stem.exists_countP_lacks, fun e => ⟨?_, ?_⟩⟩
  · have hlacks := Stem.countP_lacks_le e.valueNames
    rw [Enum.valueNames, List.countP_map] at hlacks
    rw [Enum.lower, List.countP_map]
    exact hlacks
  · intro v hv hlacks
    obtain ⟨w, -, rfl⟩ := List.mem_map.mp hv
    exact Stem.strip_of_lacks hlacks

namespace Stem

/-- The second value departs from the first in the third byte, and the third in the seventh. -/
def barValues : List String := ["FOO_BAR_A", "FOX_BAR_B", "FOO_BAZ_C"]

def barEnum : Enum := ⟨"Bar", false, [⟨"FOO_BAR_A", 0⟩, ⟨"FOX_BAR_B", 1⟩, ⟨"FOO_BAZ_C", 2⟩]⟩

theorem bar_outliers_one_at_each_place :
    2 < (bytes (ofValues barValues)).length ∧
      barValues.countP (Misses (ofValues barValues) 2 ·) ≤ 1 ∧
      (⟨"FOX_BAR_B", "FOX_BAR_B", 1⟩ : EnumValueBinding) ∈ barEnum.lower.values ∧
      Lacks barEnum.lower.stem "FOX_BAR_B" ∧
      "FOX_BAR_B" = String.ofList (markDigit "FOX_BAR_B".toList) := by
  obtain ⟨hplaces, -, htables⟩ := outliers_one_at_each_place
  have hlong : 2 < (bytes (ofValues barValues)).length := by decide
  have hmem : (⟨"FOX_BAR_B", "FOX_BAR_B", 1⟩ : EnumValueBinding) ∈ barEnum.lower.values := by decide
  have hlacks : Lacks barEnum.lower.stem "FOX_BAR_B" := by decide
  exact ⟨hlong, (hplaces barValues).1 2 hlong, hmem, hlacks, (htables barEnum).2 _ hmem hlacks⟩

/-- Each departs from the stem where the other does not, so two values keep their names in full. -/
theorem two_values_lack_the_stem :
    ofValues barValues = "FOO_BAR_" ∧ ¬ barValues.countP (Lacks (ofValues barValues)) ≤ 1 := by
  decide

end Stem

end BindingTables

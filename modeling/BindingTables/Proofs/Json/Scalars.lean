import BindingTables.Json.Writing
import BindingTables.Proofs.Source.Literals

/-! Texts and whole numbers are read as what they were written for. -/

namespace BindingTables.Json

open BindingTables.Text

variable {cs rest : List Char} {i : Nat} {c : Char}

/-! Literals. -/

theorem hexValue?_hexDigit : ∀ n < 16, hexValue? (hexDigit n) = some n := by decide

theorem quad?_control (h : c < ' ') :
    quad? '0' '0' (hexDigit (c.toNat / 16)) (hexDigit (c.toNat % 16)) = some c.toNat := by
  have hlt : c.toNat < 32 := h
  have hzero : hexValue? '0' = some 0 := rfl
  have hhigh := hexValue?_hexDigit (c.toNat / 16) (by omega)
  have hlow := hexValue?_hexDigit (c.toNat % 16) (by omega)
  simp only [quad?, hzero, hhigh, hlow, Option.some.injEq]
  omega

theorem keepText_plain (cs : List Char) (i : Nat) (hquote : c ≠ '"') (hmark : c ≠ '\\')
    (hcontrol : ¬ c < ' ') :
    keepText (c :: cs) i = (keepText cs (i + c.utf8Size)).map fun r => (c :: r.1, r.2) := by
  rw [keepText, if_neg hmark, if_neg hcontrol]
  · exact fun h => hquote h
  · exact fun _ _ _ _ _ h => absurd h hmark
  · exact fun _ _ h => absurd h hmark

/-- An escape is read as the character that it was written for. -/
theorem keepText_escapedChar (c : Char) (cs : List Char) (i : Nat) : ∃ j,
    keepText (escapedChar c ++ cs) i = (keepText cs j).map fun r => (c :: r.1, r.2) := by
  unfold escapedChar
  split
  -- The escapes of one letter are read back by their table.
  all_goals try exact ⟨i + 2, rfl⟩
  rename_i hquote hmark _ _ _ _ _
  split
  · rename_i hcontrol
    have hlt : c.toNat < 32 := hcontrol
    -- Control characters are no surrogates, so one escape is all that is read.
    have hlow : isLowSurrogate c.toNat = false := by
      simp only [isLowSurrogate, Bool.and_eq_false_iff, decide_eq_false_iff_not]
      omega
    have hhigh : isHighSurrogate c.toNat = false := by
      simp only [isHighSurrogate, Bool.and_eq_false_iff, decide_eq_false_iff_not]
      omega
    refine ⟨i + 6, ?_⟩
    simp only [List.cons_append, List.nil_append, keepText, quad?_control hcontrol, hlow, hhigh,
      Char.ofNat_toNat]
    rfl
  · rename_i hcontrol
    exact ⟨i + c.utf8Size, keepText_plain cs i hquote hmark hcontrol⟩

theorem keepText_flatMap (s rest : List Char) (i : Nat) :
    ∃ j, keepText (s.flatMap escapedChar ++ '"' :: rest) i = .ok (s, rest, j) := by
  induction s generalizing i with
  | nil => exact ⟨i + 1, rfl⟩
  | cons c s ih =>
    obtain ⟨j, hj⟩ := keepText_escapedChar c (s.flatMap escapedChar ++ '"' :: rest) i
    obtain ⟨k, hk⟩ := ih j
    exact ⟨k, by rw [List.flatMap_cons, List.append_assoc, hj, hk]; rfl⟩

/-- A text is read from its escaped characters. -/
theorem readText_flatMap (s : String) (rest : List Char) (i : Nat) :
    ∃ j, readText (s.toList.flatMap escapedChar ++ '"' :: rest) i = .ok (.ok s, rest, j) := by
  obtain ⟨j, hkeep⟩ := keepText_flatMap s.toList rest i
  refine ⟨j, ?_⟩
  simp only [readText, hkeep, skipText_of_keepText hkeep, String.ofList_toList]

/-! Whole numbers. -/

/-- The whole numbers that are read without loss. -/
def Exact (n : Int) : Prop := -0x8000000000000000 ≤ n ∧ n < UInt64.size

/-- No number goes on here. -/
def Ends (cs : List Char) : Prop :=
  ∀ c ∈ cs.head?, isDigit c = false ∧ c ≠ '.' ∧ c ≠ 'e' ∧ c ≠ 'E'

theorem isDigit_of_mem_toDigits {n : Nat} (h : c ∈ Nat.toDigits 10 n) : isDigit c = true :=
  Nat.isDigit_of_mem_toDigits (by decide) (by decide) h

theorem digitValue_digitChar : ∀ d < 10, digitValue d.digitChar = d := by decide

theorem digitChar_ne_zero : ∀ d < 10, 0 < d → d.digitChar ≠ '0' := by decide

/-- Only zero is written with a zero at its head. -/
theorem toDigits_head {n : Nat} (hn : 0 < n) :
    ∃ c ds, Nat.toDigits 10 n = c :: ds ∧ c ≠ '0' := by
  induction n using Nat.strongRecOn with
  | _ n ih =>
    rw [Nat.toDigits_eq_if (by decide)]
    by_cases hlt : n < 10
    · exact ⟨n.digitChar, [], if_pos hlt, digitChar_ne_zero n hlt hn⟩
    · obtain ⟨c, ds, hds, hc⟩ := ih (n / 10) (by omega) (by omega)
      exact ⟨c, ds ++ [(n % 10).digitChar], by rw [if_neg hlt, hds]; rfl, hc⟩

namespace Numeral

theorem gather_append {ds : List Char} {m n : Nat} (h : gather m ds = (n, 0))
    (hlt : 10 * n + digitValue c < UInt64.size) :
    gather m (ds ++ [c]) = (10 * n + digitValue c, 0) := by
  induction ds generalizing m with
  | nil =>
    cases h
    rw [List.nil_append, gather, if_pos hlt, gather]
  | cons d ds ih =>
    rw [gather] at h
    by_cases hnext : 10 * m + digitValue d < UInt64.size
    · rw [if_pos hnext] at h
      rw [List.cons_append, gather, if_pos hnext, ih h]
    · rw [if_neg hnext] at h
      cases h

theorem gather_toDigits {n : Nat} (h : n < UInt64.size) :
    gather 0 (Nat.toDigits 10 n) = (n, 0) := by
  induction n using Nat.strongRecOn with
  | _ n ih =>
    have hvalue := digitValue_digitChar (n % 10) (by omega)
    have hdigits : 10 * (n / 10) + n % 10 = n := by omega
    rw [Nat.toDigits_eq_if (by decide)]
    by_cases hlt : n < 10
    · have hsame : n % 10 = n := by omega
      rw [hsame] at hvalue
      rw [if_pos hlt, gather, hvalue, if_pos (by omega), gather]
      simp
    · rw [if_neg hlt, gather_append (ih (n / 10) (by omega) (by omega)) (by omega), hvalue,
        hdigits]

variable {atEnd : Problem} {negative : Bool} {whole : List Char}

theorem afterWhole_of_ends (h : Ends rest) : afterWhole atEnd negative whole rest i =
    .ok (⟨negative, whole, [], none, false⟩, rest, i) := by
  cases rest with
  | nil => rfl
  | cons c cs =>
    obtain ⟨-, hpoint, hletter, hletter'⟩ := h c rfl
    rw [afterWhole]
    · rw [if_neg (by simp [hletter, hletter'])]
    · exact fun h => hpoint h

theorem takeWhile_dropWhile_of_ends {ds : List Char} (hds : ∀ c ∈ ds, isDigit c = true)
    (h : Ends rest) :
    (ds ++ rest).takeWhile isDigit = ds ∧ (ds ++ rest).dropWhile isDigit = rest := by
  rw [List.takeWhile_append_of_pos hds, List.dropWhile_append_of_pos hds]
  cases rest with
  | nil => simp
  | cons c cs => simp [(h c rfl).1]

theorem unsigned_toDigits (n : Nat) (h : Ends rest) :
    unsigned atEnd negative (Nat.toDigits 10 n ++ rest) i =
      .ok (⟨negative, Nat.toDigits 10 n, [], none, false⟩, rest,
        i + (Nat.toDigits 10 n).length) := by
  rcases Nat.eq_zero_or_pos n with rfl | hn
  · rw [Nat.toDigits_zero]
    cases rest with
    | nil => rfl
    | cons c cs =>
      have hc : ¬ isDigit c = true := by simp [(h c rfl).1]
      simp only [unsigned, List.cons_append, List.nil_append, if_neg hc]
      exact afterWhole_of_ends h
  · obtain ⟨c, ds, hds, hc⟩ := toDigits_head hn
    have hdigits : ∀ d ∈ c :: ds, isDigit d = true := by
      rw [← hds]
      exact fun d hd => isDigit_of_mem_toDigits hd
    obtain ⟨htake, hdrop⟩ := takeWhile_dropWhile_of_ends hdigits h
    rw [List.cons_append] at htake hdrop
    simp only [hds, List.cons_append, unsigned, if_neg hc, if_pos (hdigits c (by simp)), htake,
      hdrop]
    exact afterWhole_of_ends h

/-- The digits of a number are read up to where they end. -/
theorem read_wholeDigits (n : Int) (h : Ends rest) :
    read atEnd (wholeDigits n ++ rest) i =
      .ok (⟨n < 0, Nat.toDigits 10 n.natAbs, [], none, false⟩, rest,
        i + (wholeDigits n).length) := by
  rw [wholeDigits]
  split
  · rename_i hn
    rw [List.cons_append, read, unsigned_toDigits _ h]
    simp [hn, Nat.add_assoc, Nat.add_comm 1]
  · rename_i hn
    rw [read, unsigned_toDigits _ h]
    · simp [hn]
    · intro r hr
      obtain ⟨c, ds, hds⟩ := List.exists_cons_of_ne_nil (Nat.toDigits_ne_nil (n := n.natAbs)
        (b := 10))
      have hdigit : isDigit c = true := isDigit_of_mem_toDigits (n := n.natAbs) (by simp [hds])
      rw [hds] at hr
      cases hr
      cases hdigit

theorem value_wholeDigits {n : Int} (h : Exact n) (stop : Nat) :
    value ⟨n < 0, Nat.toDigits 10 n.natAbs, [], none, false⟩ stop = .ok (.whole n) := by
  obtain ⟨hlow, hhigh⟩ := h
  have hsize : (UInt64.size : Int) = 0x10000000000000000 := rfl
  have hgather : gather 0 (Nat.toDigits 10 n.natAbs) = (n.natAbs, 0) :=
    gather_toDigits (by omega)
  have hkept : 0 ≤ n ∨ ¬ n = 0 ∧ n.natAbs ≤ 0x8000000000000000 := by omega
  rw [value, hgather]
  dsimp only
  rw [if_pos (by simpa using hkept)]
  have hsigned : (if n < 0 then -(n.natAbs : Int) else n.natAbs) = n := by split <;> omega
  simp only [decide_eq_true_eq, hsigned]

end Numeral

/-- A whole number is read as itself. -/
theorem readNumber_wholeDigits {n : Int} (hn : Exact n) (h : Ends rest) (i : Nat) :
    ∃ stop, readNumber (wholeDigits n ++ rest) i =
      (.number (.ok (.whole n)) stop, .ok (rest, stop)) := by
  refine ⟨i + (wholeDigits n).length, ?_⟩
  simp only [readNumber, keepNumber, skipNumber, Numeral.read_wholeDigits n h,
    Numeral.value_wholeDigits hn]

/-- A number starts with a sign or a digit. -/
theorem wholeDigits_head (n : Int) :
    ∃ c ds, wholeDigits n = c :: ds ∧ (c = '-' ∨ isDigit c = true) := by
  rw [wholeDigits]
  split
  · exact ⟨'-', _, rfl, .inl rfl⟩
  · obtain ⟨c, ds, hds⟩ := List.exists_cons_of_ne_nil (Nat.toDigits_ne_nil (n := n.natAbs)
      (b := 10))
    exact ⟨c, ds, hds, .inr (isDigit_of_mem_toDigits (n := n.natAbs) (by simp [hds]))⟩

end BindingTables.Json

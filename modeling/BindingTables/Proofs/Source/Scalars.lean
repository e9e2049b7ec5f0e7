import BindingTables.Proofs.Source.Literals

/-! Whatever is wrong with a literal, a word or a number of a JSON text, it is reported at an offset
that the text has. -/

namespace BindingTables.Json

open BindingTables.Text

variable {α β : Type} {source cs rest : List Char} {i j stop : Nat} {c : Char} {f : Fault}

/-- What has been passed and what is left make up the whole, in bytes. -/
theorem Passes.end_eq (h : Passes cs i rest j) : j + byteSize rest = i + byteSize cs := by
  obtain ⟨front, rfl, rfl⟩ := h
  rw [byteSize_append]
  omega

theorem Passes.le_end (h : Passes source 0 cs i) : i + byteSize cs ≤ byteSize source := by
  have hend := h.end_eq
  omega

theorem Passes.le (h : Passes source 0 cs i) : i ≤ byteSize source :=
  Nat.le_trans (Nat.le_add_right _ _) h.le_end

/-- Each character takes a byte or more. -/
theorem length_le_byteSize (cs : List Char) : cs.length ≤ byteSize cs := by
  induction cs with
  | nil => exact Nat.le_refl _
  | cons c cs ih =>
    have hpos := c.utf8Size_pos
    rw [List.length_cons, byteSize]
    omega

theorem le_of_passed (front : List Char) (h : j ≤ i + front.length + byteSize rest) :
    j ≤ i + byteSize (front ++ rest) := by
  have hfront := length_le_byteSize front
  rw [byteSize_append]
  omega

theorem succ_le_of_cons (i : Nat) (c : Char) (cs : List Char) : i + 1 ≤ i + byteSize (c :: cs) :=
  le_of_passed [c] (Nat.le_add_right _ _)

theorem Passes.succ_le (h : Passes source 0 (c :: cs) i) : i + 1 ≤ byteSize source :=
  Nat.le_trans (succ_le_of_cons i c cs) h.le_end

/-! Literals and words. -/

theorem offset_quadFault (cs : List Char) (i : Nat) :
    (quadFault cs i).offset ≤ i + byteSize cs := by
  unfold quadFault
  split
  · exact Nat.add_le_add_left ‹_› i
  · exact Nat.le_refl _

theorem offset_unpairedFault (cs : List Char) (i : Nat) :
    (unpairedFault cs i).offset ≤ i + byteSize cs := by
  fun_cases unpairedFault cs i with
  | case1 => exact Nat.le_refl _
  | case2 => exact succ_le_of_cons i '\\' []
  | case3 r => exact le_of_passed ['\\', 'u'] (offset_quadFault r (i + 2))
  | case4 r =>
    cases r with
    | nil => contradiction
    | cons c r => exact le_of_passed ['\\', c] (Nat.le_add_right _ _)
  | case5 =>
    cases cs with
    | nil => contradiction
    | cons c r => exact succ_le_of_cons i c r

/-- A broken escape is reported within the text, also where the text ends in its middle. -/
theorem offset_escapeFault (cs : List Char) (i : Nat) :
    (escapeFault cs i).offset ≤ i + byteSize cs := by
  fun_cases escapeFault cs i with
  | case1 => exact Nat.le_refl _
  | case2 r => exact le_of_passed ['u'] (offset_quadFault r (i + 1))
  | case3 =>
    cases cs with
    | nil => contradiction
    | cons c r => exact succ_le_of_cons i c r

theorem error_of_map {g : α → β} {x : Except Fault α} (h : x.map g = .error f) : x = .error f := by
  cases x with
  | error =>
    cases h
    rfl
  | ok => cases h

/-- A literal that is kept has its fault before the end of the source. -/
theorem offset_keepText (h : keepText cs i = .error f) : f.offset ≤ i + byteSize cs := by
  -- in each case the fault is behind characters that the case has passed, or the rest has it
  fun_induction keepText cs i with
  | case1 =>
    cases h
    exact Nat.le_refl _
  | case2 => cases h
  | case3 a b c d cs i =>
    cases h
    exact le_of_passed ['\\', 'u'] (offset_quadFault _ (i + 2))
  | case4 a b c d cs i =>
    cases h
    exact le_of_passed ['\\', 'u', a, b, c, d] (Nat.le_add_right _ _)
  | case5 a b c d i _ _ _ _ a' b' c' d' cs =>
    cases h
    exact le_of_passed ['\\', 'u', a, b, c, d, '\\', 'u'] (offset_quadFault _ (i + 8))
  | case6 a b c d i _ _ _ _ a' b' c' d' cs _ _ _ ih =>
    exact le_of_passed ['\\', 'u', a, b, c, d, '\\', 'u', a', b', c', d'] (ih (error_of_map h))
  | case7 a b c d i _ _ _ _ a' b' c' d' cs =>
    cases h
    exact le_of_passed ['\\', 'u', a, b, c, d, '\\', 'u', a', b', c', d'] (Nat.le_add_right _ _)
  | case8 a b c d =>
    cases h
    exact le_of_passed ['\\', 'u', a, b, c, d] (offset_unpairedFault _ _)
  | case9 a b c d cs i _ _ _ _ ih =>
    exact le_of_passed ['\\', 'u', a, b, c, d] (ih (error_of_map h))
  | case10 c cs i _ _ _ ih => exact le_of_passed ['\\', c] (ih (error_of_map h))
  | case11 c cs i =>
    cases h
    exact le_of_passed ['\\'] (offset_escapeFault (c :: cs) (i + 1))
  | case12 =>
    cases h
    exact le_of_passed [_] (offset_escapeFault _ _)
  | case13 c cs i =>
    cases h
    exact succ_le_of_cons i c cs
  | case14 c cs i _ _ _ _ _ ih =>
    have hrest := ih (error_of_map h)
    rwa [Nat.add_assoc] at hrest

theorem offset_skipText (h : skipText cs i = .error f) : f.offset ≤ i + byteSize cs := by
  fun_induction skipText cs i with
  | case1 =>
    cases h
    exact Nat.le_refl _
  | case2 => cases h
  | case3 a b c d cs i =>
    cases h
    exact le_of_passed ['\\', 'u'] (offset_quadFault _ (i + 2))
  | case4 a b c d cs i _ _ ih => exact le_of_passed ['\\', 'u', a, b, c, d] (ih h)
  | case5 c cs i _ _ _ ih => exact le_of_passed ['\\', c] (ih h)
  | case6 c cs i =>
    cases h
    exact le_of_passed ['\\'] (offset_escapeFault (c :: cs) (i + 1))
  | case7 =>
    cases h
    exact le_of_passed [_] (offset_escapeFault _ _)
  | case8 c cs i =>
    cases h
    exact Nat.le_add_right _ _
  | case9 c cs i _ _ _ _ _ ih =>
    have hrest := ih h
    rwa [Nat.add_assoc] at hrest

theorem offset_readWord {word : List Char} (h : readWord word cs i = .error f) :
    f.offset ≤ i + byteSize cs := by
  fun_induction readWord word cs i with
  | case1 => cases h
  | case2 =>
    cases h
    exact Nat.le_refl _
  | case3 _ _ _ _ ih => exact le_of_passed [_] (ih h)
  | case4 =>
    cases h
    exact succ_le_of_cons _ _ _

/-! Numbers. -/

namespace Numeral

variable {atEnd : Problem} {negative decimal : Bool} {whole fraction : List Char} {m : Numeral}
  {result : Except Fault (Numeral × List Char × Nat)}

/-- The digits of the exponent are part of what was read. -/
def ExponentFits (m : Numeral) (stop : Nat) : Prop := ∀ e ∈ m.exponent, e.2.length ≤ stop

/-- Of a numeral at `cs`, offset `i`, there is a fault within the text or an exponent within what
was read. -/
structure Contained (cs : List Char) (i : Nat) (result : Except Fault (Numeral × List Char × Nat)) :
    Prop where
  fault : ∀ f, result = .error f → f.offset ≤ i + byteSize cs
  exponent : ∀ m rest stop, result = .ok (m, rest, stop) → m.ExponentFits stop

theorem contained_error (h : f.offset ≤ i + byteSize cs) : Contained cs i (.error f) where
  fault g hg := by
    cases hg
    exact h
  exponent := by simp

theorem contained_ok (h : m.ExponentFits stop) : Contained cs i (.ok (m, rest, stop)) where
  fault := by simp
  exponent m' rest' stop' hok := by
    cases hok
    exact h

/-- What is wrong behind a part that was passed is wrong in the whole. -/
theorem contained_of_passes (h : Passes cs i rest j) (hrest : Contained rest j result) :
    Contained cs i result where
  fault f hf := h.end_eq ▸ hrest.fault f hf
  exponent := hrest.exponent

theorem offset_exponentPart (h : exponentPart atEnd cs i = .error f) :
    f.offset ≤ i + byteSize cs := by
  unfold exponentPart at h
  split at h
  rename_i negative digits k hsign
  have hpass : Passes cs i digits k := by
    split at hsign
    · cases hsign
      exact passes_one rfl
    · cases hsign
      exact passes_one rfl
    · cases hsign
      exact passes_refl _ _
  rw [← hpass.end_eq]
  split at h
  · cases h
    exact Nat.le_refl _
  · split at h
    · cases h
    · cases h
      exact succ_le_of_cons _ _ _

theorem length_exponentPart {e : Bool × List Char}
    (h : exponentPart atEnd cs i = .ok (e, rest, stop)) : e.2.length ≤ stop := by
  unfold exponentPart at h
  split at h
  split at h
  · cases h
  · split at h
    · cases h
      exact Nat.le_add_left _ _
    · cases h

theorem contained_plain (cs rest : List Char) (i stop : Nat) :
    Contained cs i (.ok (⟨negative, whole, fraction, none, decimal⟩, rest, stop)) :=
  contained_ok fun e he => by cases he

/-- What follows the letter of the exponent. -/
theorem contained_exponent (c : Char) (cs : List Char) (i : Nat) :
    Contained (c :: cs) i (match exponentPart atEnd cs (i + 1) with
      | .error f => .error f
      | .ok (e, rest, k) => .ok (⟨negative, whole, fraction, some e, decimal⟩, rest, k)) := by
  split
  · rename_i hexponent
    exact contained_error (le_of_passed [c] (offset_exponentPart hexponent))
  · rename_i hexponent
    refine contained_ok fun e he => ?_
    cases he
    exact length_exponentPart hexponent

theorem contained_afterWhole (negative : Bool) (whole cs : List Char) (i : Nat) :
    Contained cs i (afterWhole atEnd negative whole cs i) := by
  unfold afterWhole
  split
  · rename_i fraction
    have hpass : Passes ('.' :: fraction) i (fraction.dropWhile isDigit)
        (i + 1 + (fraction.takeWhile isDigit).length) :=
      (passes_one rfl).trans (passes_dropWhile_isDigit fraction (i + 1))
    refine contained_of_passes hpass ?_
    dsimp only
    generalize i + 1 + (fraction.takeWhile isDigit).length = k
    split
    · split
      · exact contained_error (Nat.le_add_right _ _)
      · rename_i hrest
        rw [hrest]
        exact contained_error (succ_le_of_cons _ _ _)
    · split
      · rename_i c tail hrest
        rw [hrest]
        split
        · exact contained_exponent c tail k
        · exact contained_plain _ _ _ _
      · exact contained_plain _ _ _ _
  · split
    · exact contained_exponent _ _ i
    · exact contained_plain _ _ _ _
  · exact contained_plain _ _ _ _

theorem contained_unsigned (negative : Bool) (cs : List Char) (i : Nat) :
    Contained cs i (unsigned atEnd negative cs i) := by
  unfold unsigned
  split
  · exact contained_error (Nat.le_refl _)
  · rename_i c tail
    split
    · rename_i hzero
      have hone : c.utf8Size = 1 := by
        rw [hzero]
        rfl
      split
      · rename_i d tail
        split
        · exact contained_error (le_of_passed [c, d] (Nat.le_add_right _ _))
        · exact contained_of_passes (passes_one hone) (contained_afterWhole _ _ _ _)
      · exact contained_of_passes (passes_one hone) (contained_afterWhole _ _ _ _)
    · split
      · exact contained_of_passes (passes_dropWhile_isDigit _ i) (contained_afterWhole _ _ _ _)
      · exact contained_error (succ_le_of_cons i c tail)

/-- A number that is given up is given up inside the source, and its exponent is no longer than the
number. -/
theorem contained_read (cs : List Char) (i : Nat) : Contained cs i (read atEnd cs i) := by
  unfold read
  split
  · exact contained_of_passes (passes_one rfl) (contained_unsigned _ _ _)
  · exact contained_unsigned _ _ _

theorem exponentValue_le {value taken passed : Nat} {digits : List Char}
    (h : exponentValue value taken digits = .error passed) : passed ≤ taken + digits.length := by
  induction digits generalizing value taken with
  | nil => cases h
  | cons d digits ih =>
    rw [exponentValue] at h
    rw [List.length_cons]
    split at h
    · have hrest := ih h
      omega
    · cases h
      omega

/-- A number out of range is reported no further than where it stops. -/
theorem offset_value (hfits : m.ExponentFits stop) (h : m.value stop = .error f) :
    f.offset ≤ stop := by
  unfold value at h
  dsimp only at h
  split at h
  · cases h
  · split at h
    · split at h
      · cases h
      · cases h
        exact Nat.le_refl stop
    · rename_i negative digits hexponent
      split at h
      · split at h
        · cases h
        · cases h
          exact Nat.le_refl stop
      · rename_i taken htaken
        split at h
        · cases h
          have hle := exponentValue_le htaken
          have hlength := hfits _ hexponent
          dsimp only at hlength ⊢
          omega
        · cases h

end Numeral

theorem offset_skipNumber (h : skipNumber cs i = .error f) : f.offset ≤ i + byteSize cs := by
  unfold skipNumber at h
  split at h
  · rename_i hread
    cases h
    exact (Numeral.contained_read cs i).fault _ hread
  · cases h

theorem offset_keepNumber (h : keepNumber cs i = .error f) : f.offset ≤ i + byteSize cs := by
  unfold keepNumber at h
  split at h
  · rename_i hread
    cases h
    exact (Numeral.contained_read cs i).fault _ hread
  · rename_i m rest stop hread
    split at h
    · rename_i hvalue
      cases h
      have hstop := Numeral.offset_value ((Numeral.contained_read cs i).exponent _ _ _ hread) hvalue
      have hend := (Numeral.passes_read hread).end_eq
      omega
    · cases h

end BindingTables.Json

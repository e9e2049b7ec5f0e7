import BindingTables.Json.Node

/-! The literals of a JSON tree stand in the text where the tree has them. -/

namespace BindingTables.Json

open BindingTables.Text

variable {α β : Type} {source cs rest : List Char} {i j start stop fuel : Nat} {c : Char}

/-- Reading from `cs`, which is at offset `i`, has come to `rest`, which is at offset `j`. -/
def Passes (cs : List Char) (i : Nat) (rest : List Char) (j : Nat) : Prop :=
  ∃ front, cs = front ++ rest ∧ j = i + byteSize front

theorem passes_refl (cs : List Char) (i : Nat) : Passes cs i cs i := ⟨[], rfl, rfl⟩

theorem Passes.trans {more : List Char} {k : Nat} (h : Passes cs i rest j)
    (h' : Passes rest j more k) : Passes cs i more k := by
  obtain ⟨front, rfl, rfl⟩ := h
  obtain ⟨front', rfl, rfl⟩ := h'
  exact ⟨front ++ front', by simp, by simp [Nat.add_assoc]⟩

theorem passes_append (front rest : List Char) (i : Nat) :
    Passes (front ++ rest) i rest (i + byteSize front) := ⟨front, rfl, rfl⟩

theorem passes_one (hc : c.utf8Size = 1) : Passes (c :: cs) i cs (i + 1) :=
  ⟨[c], rfl, by simp [byteSize, hc]⟩

/-- All that the grammar is written in is ASCII, and so of one byte. -/
theorem utf8Size_of_le (h : c ≤ '\x7f') : c.utf8Size = 1 := Char.utf8Size_eq_one_iff.mpr h

theorem utf8Size_of_isDigit (h : isDigit c = true) : c.utf8Size = 1 := by
  simp only [isDigit, Bool.and_eq_true, decide_eq_true_eq] at h
  exact utf8Size_of_le (Char.le_trans h.2 (by decide))

theorem utf8Size_of_isBlank (h : isBlank c = true) : c.utf8Size = 1 := by
  simp only [isBlank, Bool.or_eq_true, decide_eq_true_eq] at h
  rcases h with ((rfl | rfl) | rfl) | rfl <;> rfl

theorem utf8Size_of_hexValue? {n : Nat} (h : hexValue? c = some n) : c.utf8Size = 1 := by
  rw [hexValue?] at h
  split at h
  · rename_i hc
    exact utf8Size_of_isDigit hc
  · split at h
    · rename_i hc
      exact utf8Size_of_le (Char.le_trans hc.2 (by decide))
    · split at h
      · rename_i hc
        exact utf8Size_of_le (Char.le_trans hc.2 (by decide))
      · cases h

theorem byteSize_of_quad? {a b c d : Char} {n : Nat} (h : quad? a b c d = some n) :
    byteSize [a, b, c, d] = 4 := by
  unfold quad? at h
  split at h
  · rename_i ha hb hc hd
    simp [byteSize, utf8Size_of_hexValue? ha, utf8Size_of_hexValue? hb, utf8Size_of_hexValue? hc,
      utf8Size_of_hexValue? hd]
  · cases h

theorem utf8Size_of_shorthand? {d : Char} (h : shorthand? c = some d) : c.utf8Size = 1 := by
  unfold shorthand? at h
  split at h <;> first | rfl | cases h

/-! What the readers of scalars leave. -/

theorem passes_skipBlanks (cs : List Char) (i : Nat) :
    Passes cs i (skipBlanks cs i).1 (skipBlanks cs i).2 := by
  fun_induction skipBlanks cs i with
  | case1 i => exact passes_refl [] i
  | case2 c cs i hc ih => exact (passes_one (utf8Size_of_isBlank hc)).trans ih
  | case3 c cs i => exact passes_refl (c :: cs) i

theorem skipBlanks_skipBlanks (cs : List Char) (i : Nat) :
    skipBlanks (skipBlanks cs i).1 (skipBlanks cs i).2 = skipBlanks cs i := by
  fun_induction skipBlanks cs i with
  | case1 => rfl
  | case2 c cs i hc ih => exact ih
  | case3 c cs i hc => rw [skipBlanks, if_neg hc]

theorem passes_readWord {word : List Char} (hword : ∀ w ∈ word, w.utf8Size = 1)
    (h : readWord word cs i = .ok (rest, j)) : Passes cs i rest j := by
  fun_induction readWord word cs i with
  | case1 =>
    cases h
    exact passes_refl rest j
  | case2 => cases h
  | case3 w word cs i ih =>
    rw [List.forall_mem_cons] at hword
    exact (passes_one hword.1).trans (ih hword.2 h)
  | case4 => cases h

/-- A literal ends at its closing quote. -/
theorem skipText_split {r : List Char × Nat} (h : skipText cs i = .ok r) :
    ∃ raw, cs = raw ++ '"' :: r.1 ∧ r.2 = i + byteSize raw + 1 := by
  have hmark : '\\'.utf8Size = 1 := rfl
  have hu : 'u'.utf8Size = 1 := rfl
  fun_induction skipText cs i with
  | case1 => cases h
  | case2 cs i =>
    cases h
    exact ⟨[], rfl, rfl⟩
  | case3 => cases h
  | case4 a b c d cs i n hquad ih =>
    obtain ⟨raw, rfl, hstop⟩ := ih h
    have hsize := byteSize_of_quad? hquad
    refine ⟨'\\' :: 'u' :: a :: b :: c :: d :: raw, rfl, ?_⟩
    simp only [byteSize] at hsize ⊢
    omega
  | case5 c cs i hnot c' hshort ih =>
    obtain ⟨raw, rfl, hstop⟩ := ih h
    have hsize := utf8Size_of_shorthand? hshort
    refine ⟨'\\' :: c :: raw, rfl, ?_⟩
    simp only [byteSize]
    omega
  | case6 => cases h
  | case7 => cases h
  | case8 => cases h
  | case9 c cs i hnot hnot' hnot'' hmark hcontrol ih =>
    obtain ⟨raw, rfl, hstop⟩ := ih h
    refine ⟨c :: raw, rfl, ?_⟩
    rw [hstop, byteSize]
    omega

theorem map_eq_ok_iff {f : α → β} {x : Except Fault α} {b : β} :
    x.map f = .ok b ↔ ∃ a, x = .ok a ∧ f a = b := by
  cases x <;> simp [Except.map]

/-- A literal ends at the same place, whether its text is used or not. -/
theorem skipText_of_keepText {r : List Char × List Char × Nat} (h : keepText cs i = .ok r) :
    skipText cs i = .ok r.2 := by
  fun_induction keepText cs i generalizing r with
  | case1 => cases h
  | case2 cs i =>
    cases h
    rfl
  | case3 => cases h
  | case4 => cases h
  | case5 => cases h
  | case6 a b c d i n hquad hlow hhigh a' b' c' d' cs m hquad' hlow' ih =>
    obtain ⟨q, hq, rfl⟩ := map_eq_ok_iff.mp h
    simp only [skipText, hquad, hquad']
    exact ih hq
  | case7 => cases h
  | case8 => cases h
  | case9 a b c d cs i n hquad hlow hhigh ih =>
    obtain ⟨q, hq, rfl⟩ := map_eq_ok_iff.mp h
    simp only [skipText, hquad]
    exact ih hq
  | case10 c cs i hnot c' hshort ih =>
    obtain ⟨q, hq, rfl⟩ := map_eq_ok_iff.mp h
    simp only [skipText, hshort]
    exact ih hq
  | case11 => cases h
  | case12 => cases h
  | case13 => cases h
  | case14 c cs i hnot hnot' hnot'' hmark hcontrol ih =>
    obtain ⟨q, hq, rfl⟩ := map_eq_ok_iff.mp h
    simp only [skipText, if_neg hmark, if_neg hcontrol]
    exact ih hq

/-! Numbers are written in digits, signs, a point and a letter. -/

theorem byteSize_takeWhile_isDigit (cs : List Char) :
    byteSize (cs.takeWhile isDigit) = (cs.takeWhile isDigit).length := by
  induction cs with
  | nil => rfl
  | cons c cs ih =>
    by_cases hc : isDigit c = true
    · simp [hc, byteSize, ih, utf8Size_of_isDigit hc, Nat.add_comm]
    · simp [hc, byteSize]

theorem passes_dropWhile_isDigit (cs : List Char) (i : Nat) :
    Passes cs i (cs.dropWhile isDigit) (i + (cs.takeWhile isDigit).length) := by
  rw [← byteSize_takeWhile_isDigit]
  have h := passes_append (cs.takeWhile isDigit) (cs.dropWhile isDigit) i
  rwa [List.takeWhile_append_dropWhile] at h

namespace Numeral

variable {atEnd : Problem} {negative : Bool} {whole : List Char} {n : Numeral}

theorem passes_exponentPart {e : Bool × List Char}
    (h : exponentPart atEnd cs i = .ok (e, rest, j)) : Passes cs i rest j := by
  unfold exponentPart at h
  split at h
  rename_i negative digits k hsign
  have hpass : Passes cs i digits k := by
    split at hsign
    · cases hsign
      exact passes_one rfl
    · cases hsign
      exact passes_one rfl
    · cases hsign
      exact passes_refl _ _
  split at h
  · cases h
  · split at h
    · cases h
      exact hpass.trans (passes_dropWhile_isDigit _ _)
    · cases h

/-- The letter of an exponent is passed along with its digits. -/
theorem passes_exponent {e : Bool × List Char} (hletter : c = 'e' ∨ c = 'E')
    (h : exponentPart atEnd cs (i + 1) = .ok (e, rest, j)) : Passes (c :: cs) i rest j := by
  have hc : c.utf8Size = 1 := by rcases hletter with rfl | rfl <;> rfl
  exact (passes_one hc).trans (passes_exponentPart h)

theorem passes_afterWhole (h : afterWhole atEnd negative whole cs i = .ok (n, rest, j)) :
    Passes cs i rest j := by
  unfold afterWhole at h
  split at h
  · rename_i fraction
    have hpass : Passes ('.' :: fraction) i (fraction.dropWhile isDigit)
        (i + 1 + (fraction.takeWhile isDigit).length) :=
      (passes_one rfl).trans (passes_dropWhile_isDigit fraction (i + 1))
    dsimp only at h
    split at h
    · split at h <;> cases h
    · split at h
      · rename_i c tail hrest
        rw [hrest] at hpass
        split at h
        · rename_i hletter
          split at h
          · cases h
          · rename_i hexponent
            cases h
            exact hpass.trans (passes_exponent hletter hexponent)
        · cases h
          rwa [hrest]
      · rename_i hrest
        rw [hrest] at hpass
        cases h
        exact hpass
  · rename_i c tail _
    split at h
    · rename_i hletter
      split at h
      · cases h
      · rename_i hexponent
        cases h
        exact passes_exponent hletter hexponent
    · cases h
      exact passes_refl _ _
  · cases h
    exact passes_refl _ _

theorem passes_unsigned (h : unsigned atEnd negative cs i = .ok (n, rest, j)) :
    Passes cs i rest j := by
  unfold unsigned at h
  split at h
  · cases h
  · split at h
    · rename_i c tail hzero
      have hc : c.utf8Size = 1 := by rw [hzero]; rfl
      split at h
      · split at h
        · cases h
        · exact (passes_one hc).trans (passes_afterWhole h)
      · exact (passes_one hc).trans (passes_afterWhole h)
    · split at h
      · exact (passes_dropWhile_isDigit _ _).trans (passes_afterWhole h)
      · cases h

theorem passes_read (h : read atEnd cs i = .ok (n, rest, j)) : Passes cs i rest j := by
  unfold read at h
  split at h
  · exact (passes_one rfl).trans (passes_unsigned h)
  · exact passes_unsigned h

end Numeral

/-- A number that is skipped is passed as one that is read. -/
theorem passes_skipNumber (h : skipNumber cs i = .ok (rest, j)) : Passes cs i rest j := by
  rw [skipNumber] at h
  split at h
  · cases h
  · rename_i n rest' stop hread
    cases h
    exact Numeral.passes_read hread

/-! The tree as a whole. -/

/-- What is left of the text behind its first bytes. -/
def dropBytes : Nat → List Char → List Char
  | 0, cs => cs
  | _, [] => []
  | n + 1, c :: cs => dropBytes (n + 1 - c.utf8Size) cs

/-- Where the value of a member starts whose colon is at `settled`. -/
def valueStart (source : List Char) (settled : Nat) : Nat :=
  (skipBlanks (dropBytes (settled + 1) source) (settled + 1)).2

/-- From `start` to `stop` the source has a literal, quotes included, that reads as `s`. -/
def Literal (source : List Char) (s : String) (start stop : Nat) : Prop :=
  ∃ before raw after, source = before ++ '"' :: raw ++ '"' :: after ∧
    byteSize before = start ∧ start + byteSize raw + 2 = stop ∧
    keepText (raw ++ '"' :: after) (start + 1) = .ok (s.toList, after, stop)

mutual

/-- A value that starts at `start` has its literals where the source has them. -/
def Node.Placed (source : List Char) (start : Nat) : Node → Prop
  | .text (.ok s) stop => Literal source s start stop
  | .list _ items => items.Placed source
  | .object _ members => members.Placed source
  | _ => True

def Items.Placed (source : List Char) : Items → Prop
  | .cons start item rest => item.Placed source start ∧ rest.Placed source
  | _ => True

def Members.Placed (source : List Char) : Members → Prop
  | .cons _ settled value rest =>
    value.Placed source (valueStart source settled) ∧ rest.Placed source
  | _ => True

end

theorem dropBytes_byteSize (front rest : List Char) :
    dropBytes (byteSize front) (front ++ rest) = rest := by
  induction front with
  | nil => cases rest <;> rfl
  | cons c front ih =>
    obtain ⟨n, hn⟩ := Nat.exists_eq_add_of_lt c.utf8Size_pos
    have hsize : byteSize (c :: front) = byteSize front + n + 1 := by
      rw [byteSize]
      omega
    rw [hsize, List.cons_append, dropBytes]
    have hrest : byteSize front + n + 1 - c.utf8Size = byteSize front := by omega
    rw [hrest, ih]

/-- The start of a value is found again from the sign before it. -/
theorem valueStart_eq (h : Passes source 0 cs (i + 1)) :
    valueStart source i = (skipBlanks cs (i + 1)).2 := by
  obtain ⟨front, rfl, hi⟩ := h
  have hi' : i + 1 = byteSize front := by omega
  rw [valueStart, hi', dropBytes_byteSize]

/-- What is left to read stands in the source at its offset. -/
def Left (source : List Char) (p : Progress) : Prop :=
  ∀ rest j, p = .ok (rest, j) → Passes source 0 rest j

theorem left_error (faults : Faults) : Left source (.error faults) := by
  intro rest j h
  cases h

theorem left_ok (h : Passes source 0 rest j) : Left source (.ok (rest, j)) := by
  intro rest' j' h'
  cases h'
  exact h

/-- With this much fuel all readers place what they read. -/
structure ReadsPlaced (source : List Char) (fuel : Nat) : Prop where
  value : ∀ cs i, Passes source 0 cs i →
    (readValue fuel cs i).1.Placed source (skipBlanks cs i).2 ∧ Left source (readValue fuel cs i).2
  items : ∀ cs i, Passes source 0 cs i →
    (readItems fuel cs i).1.Placed source ∧ Left source (readItems fuel cs i).2
  item : ∀ cs i, Passes source 0 cs i → skipBlanks cs i = (cs, i) →
    (readItem fuel cs i).1.Placed source ∧ Left source (readItem fuel cs i).2
  moreItems : ∀ cs i, Passes source 0 cs i →
    (readMoreItems fuel cs i).1.Placed source ∧ Left source (readMoreItems fuel cs i).2
  members : ∀ cs i, Passes source 0 cs i →
    (readMembers fuel cs i).1.Placed source ∧ Left source (readMembers fuel cs i).2
  member : ∀ cs i, Passes source 0 cs i →
    (readMember fuel cs i).1.Placed source ∧ Left source (readMember fuel cs i).2
  moreMembers : ∀ cs i, Passes source 0 cs i →
    (readMoreMembers fuel cs i).1.Placed source ∧ Left source (readMoreMembers fuel cs i).2

theorem readsPlaced_zero : ReadsPlaced source 0 := by
  refine ⟨?_, ?_, ?_, ?_, ?_, ?_, ?_⟩ <;> intros
  · simp [readValue, halt, Node.Placed, left_error]
  · simp [readItems, Items.Placed, left_error]
  · simp [readItem, Items.Placed, left_error]
  · simp [readMoreItems, Items.Placed, left_error]
  · simp [readMembers, Members.Placed, left_error]
  · simp [readMember, Members.Placed, left_error]
  · simp [readMoreMembers, Members.Placed, left_error]

theorem passes_readText {s : Except Fault String} (hread : readText cs i = .ok (s, rest, j)) :
    Passes cs i rest j := by
  have hskip : skipText cs i = .ok (rest, j) := by
    unfold readText at hread
    split at hread <;> cases hread <;> assumption
  obtain ⟨raw, rfl, rfl⟩ := skipText_split hskip
  exact (passes_append raw ('"' :: rest) i).trans (passes_one rfl)

/-- A text that is read from behind its opening quote, at offset `i`, stands in the source. -/
theorem literal_of_readText {s : String} (h : Passes source 0 ('"' :: cs) i)
    (hread : readText cs (i + 1) = .ok (.ok s, rest, j)) : Literal source s i j := by
  unfold readText at hread
  split at hread
  · rename_i t rest' stop rest'' stop' hkeep hskip
    cases hread
    have hsame := skipText_of_keepText hkeep
    rw [hskip] at hsame
    cases hsame
    obtain ⟨before, rfl, hi⟩ := h
    obtain ⟨raw, rfl, hstop⟩ := skipText_split hskip
    refine ⟨before, raw, rest, by simp, by omega, by omega, ?_⟩
    rw [hkeep, String.toList_ofList]
  · cases hread
  · cases hread
  · cases hread

/-- Words and numbers leave nothing to place but where they stop. -/
theorem placed_scalar {taken : Except Fault (List Char × Nat)} {leaf : Nat → Node}
    (hleaf : ∀ stop, (leaf stop).Placed source start)
    (htaken : ∀ rest j, taken = .ok (rest, j) → Passes source 0 rest j) :
    (scalar taken leaf).1.Placed source start ∧ Left source (scalar taken leaf).2 := by
  unfold scalar
  split
  · exact ⟨by simp [Node.Placed], left_error _⟩
  · exact ⟨hleaf _, left_ok (htaken _ _ rfl)⟩

theorem placed_readNumber (h : Passes source 0 cs i) :
    (readNumber cs i).1.Placed source start ∧ Left source (readNumber cs i).2 := by
  unfold readNumber
  split
  · rename_i hskip
    exact ⟨by simp [Node.Placed], left_ok (h.trans (passes_skipNumber hskip))⟩
  · rename_i hskip
    exact ⟨by simp [Node.Placed], left_ok (h.trans (passes_skipNumber hskip))⟩
  · exact ⟨by simp [halt, Node.Placed], left_error _⟩
  · exact ⟨by simp [halt, Node.Placed], left_error _⟩

theorem readsPlaced_value (ih : ReadsPlaced source fuel) (h : Passes source 0 cs i) :
    (readValue (fuel + 1) cs i).1.Placed source (skipBlanks cs i).2 ∧
      Left source (readValue (fuel + 1) cs i).2 := by
  have hat := h.trans (passes_skipBlanks cs i)
  rw [readValue]
  generalize skipBlanks cs i = ahead at hat ⊢
  split
  · exact ⟨by simp [halt, Node.Placed], left_error _⟩
  · refine placed_scalar (fun _ => by simp [Node.Placed]) fun rest j hword => ?_
    exact (hat.trans (passes_one rfl)).trans (passes_readWord (by simp [Char.utf8Size]) hword)
  · refine placed_scalar (fun _ => by simp [Node.Placed]) fun rest j hword => ?_
    exact (hat.trans (passes_one rfl)).trans (passes_readWord (by simp [Char.utf8Size]) hword)
  · refine placed_scalar (fun _ => by simp [Node.Placed]) fun rest j hword => ?_
    exact (hat.trans (passes_one rfl)).trans (passes_readWord (by simp [Char.utf8Size]) hword)
  · split
    · exact ⟨by simp [halt, Node.Placed], left_error _⟩
    · rename_i s rest stop hread
      refine ⟨?_, left_ok ((hat.trans (passes_one rfl)).trans (passes_readText hread))⟩
      cases s with
      | error f => simp [Node.Placed]
      | ok s => exact literal_of_readText hat hread
  · exact ih.items _ _ (hat.trans (passes_one rfl))
  · exact ih.members _ _ (hat.trans (passes_one rfl))
  · split
    · exact placed_readNumber hat
    · exact ⟨by simp [halt, Node.Placed], left_error _⟩

theorem readsPlaced_items (ih : ReadsPlaced source fuel) (h : Passes source 0 cs i) :
    (readItems (fuel + 1) cs i).1.Placed source ∧ Left source (readItems (fuel + 1) cs i).2 := by
  have hat := h.trans (passes_skipBlanks cs i)
  have hblank := skipBlanks_skipBlanks cs i
  rw [readItems]
  generalize skipBlanks cs i = ahead at hat hblank ⊢
  split
  · exact ⟨by simp [Items.Placed], left_error _⟩
  · exact ⟨by simp [Items.Placed], left_ok (hat.trans (passes_one rfl))⟩
  · exact ih.item _ _ hat hblank

theorem readsPlaced_item (ih : ReadsPlaced source fuel) (h : Passes source 0 cs i)
    (hblank : skipBlanks cs i = (cs, i)) :
    (readItem (fuel + 1) cs i).1.Placed source ∧ Left source (readItem (fuel + 1) cs i).2 := by
  have hvalue := ih.value cs i h
  rw [hblank] at hvalue
  rw [readItem]
  split
  · rename_i item faults hread
    rw [hread] at hvalue
    exact ⟨by simpa [Items.Placed] using hvalue.1, left_error _⟩
  · rename_i item rest j hread
    rw [hread] at hvalue
    have hmore := ih.moreItems rest j (hvalue.2 rest j rfl)
    exact ⟨by simpa [Items.Placed] using ⟨hvalue.1, hmore.1⟩, hmore.2⟩

theorem readsPlaced_moreItems (ih : ReadsPlaced source fuel) (h : Passes source 0 cs i) :
    (readMoreItems (fuel + 1) cs i).1.Placed source ∧
      Left source (readMoreItems (fuel + 1) cs i).2 := by
  have hat := h.trans (passes_skipBlanks cs i)
  rw [readMoreItems]
  generalize skipBlanks cs i = ahead at hat ⊢
  split
  · exact ⟨by simp [Items.Placed], left_error _⟩
  · exact ⟨by simp [Items.Placed], left_ok (hat.trans (passes_one rfl))⟩
  · rename_i ds k
    have hnext := (hat.trans (passes_one rfl)).trans (passes_skipBlanks ds (k + 1))
    have hblank := skipBlanks_skipBlanks ds (k + 1)
    generalize skipBlanks ds (k + 1) = ahead at hnext hblank ⊢
    split
    · exact ⟨by simp [Items.Placed], left_error _⟩
    · exact ⟨by simp [Items.Placed], left_error _⟩
    · exact ih.item _ _ hnext hblank
  · exact ⟨by simp [Items.Placed], left_error _⟩

theorem readsPlaced_members (ih : ReadsPlaced source fuel) (h : Passes source 0 cs i) :
    (readMembers (fuel + 1) cs i).1.Placed source ∧
      Left source (readMembers (fuel + 1) cs i).2 := by
  have hat := h.trans (passes_skipBlanks cs i)
  rw [readMembers]
  generalize skipBlanks cs i = ahead at hat ⊢
  split
  · exact ⟨by simp [Members.Placed], left_error _⟩
  · exact ⟨by simp [Members.Placed], left_ok (hat.trans (passes_one rfl))⟩
  · exact ih.member _ _ (hat.trans (passes_one rfl))
  · exact ⟨by simp [Members.Placed], left_error _⟩

theorem readsPlaced_member (ih : ReadsPlaced source fuel) (h : Passes source 0 cs i) :
    (readMember (fuel + 1) cs i).1.Placed source ∧
      Left source (readMember (fuel + 1) cs i).2 := by
  rw [readMember]
  split
  · exact ⟨by simp [Members.Placed], left_error _⟩
  · rename_i key ds k hkey
    have hat := (h.trans (passes_readText hkey)).trans (passes_skipBlanks ds k)
    generalize skipBlanks ds k = ahead at hat ⊢
    split
    · exact ⟨by simp [Members.Placed, Node.Placed], left_error _⟩
    · exact ⟨by simp [Members.Placed, Node.Placed], left_error _⟩
    · rename_i ds k
      have hcolon := hat.trans (passes_one (i := k) rfl)
      have hvalue := ih.value ds (k + 1) hcolon
      rw [← valueStart_eq hcolon] at hvalue
      split
      · rename_i value faults hread
        rw [hread] at hvalue
        exact ⟨by simpa [Members.Placed] using hvalue.1, left_error _⟩
      · rename_i value rest j hread
        rw [hread] at hvalue
        have hmore := ih.moreMembers rest j (hvalue.2 rest j rfl)
        exact ⟨by simpa [Members.Placed] using ⟨hvalue.1, hmore.1⟩, hmore.2⟩
    · exact ⟨by simp [Members.Placed, Node.Placed], left_error _⟩

theorem readsPlaced_moreMembers (ih : ReadsPlaced source fuel) (h : Passes source 0 cs i) :
    (readMoreMembers (fuel + 1) cs i).1.Placed source ∧
      Left source (readMoreMembers (fuel + 1) cs i).2 := by
  have hat := h.trans (passes_skipBlanks cs i)
  rw [readMoreMembers]
  generalize skipBlanks cs i = ahead at hat ⊢
  split
  · exact ⟨by simp [Members.Placed], left_error _⟩
  · exact ⟨by simp [Members.Placed], left_ok (hat.trans (passes_one rfl))⟩
  · rename_i ds k
    have hnext := (hat.trans (passes_one rfl)).trans (passes_skipBlanks ds (k + 1))
    generalize skipBlanks ds (k + 1) = ahead at hnext ⊢
    split
    · exact ⟨by simp [Members.Placed], left_error _⟩
    · exact ih.member _ _ (hnext.trans (passes_one rfl))
    · exact ⟨by simp [Members.Placed], left_error _⟩
    · exact ⟨by simp [Members.Placed], left_error _⟩
  · exact ⟨by simp [Members.Placed], left_error _⟩

/-- With less fuel for what is inside, the readers are taken together. -/
theorem readsPlaced (source : List Char) (fuel : Nat) : ReadsPlaced source fuel := by
  induction fuel with
  | zero => exact readsPlaced_zero
  | succ fuel ih =>
    exact ⟨fun _ _ => readsPlaced_value ih, fun _ _ => readsPlaced_items ih,
      fun _ _ => readsPlaced_item ih, fun _ _ => readsPlaced_moreItems ih,
      fun _ _ => readsPlaced_members ih, fun _ _ => readsPlaced_member ih,
      fun _ _ => readsPlaced_moreMembers ih⟩

/-- In the tree of a text each literal stands where the text has it. -/
theorem placed_root (source : List Char) :
    (Document.ofChars source).root.Placed source (skipBlanks source 0).2 := by
  have hroot : (Document.ofChars source).root
      = (readValue (3 * source.length + 3) source 0).1 := by
    unfold Document.ofChars
    split
    · rename_i hread
      rw [hread]
    · rename_i hread
      rw [hread]
      dsimp only
      split <;> rfl
  rw [hroot]
  exact ((readsPlaced source _).value source 0 (passes_refl source 0)).1

end BindingTables.Json

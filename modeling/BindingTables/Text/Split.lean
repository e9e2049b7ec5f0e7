/-! Cutting a text at a character, and putting it together again. -/

namespace BindingTables.Text

/-- The pieces between the occurrences of `sep`; there is one more of them than occurrences. -/
def split (sep : Char) : List Char → List (List Char)
  | [] => [[]]
  | c :: cs =>
    match split sep cs with
    | [] => [[]]
    | piece :: rest => if c = sep then [] :: piece :: rest else (c :: piece) :: rest

def join (sep : Char) : List (List Char) → List Char
  | [] => []
  | [piece] => piece
  | piece :: rest => piece ++ sep :: join sep rest

theorem split_ne_nil (sep : Char) (cs : List Char) : split sep cs ≠ [] := by
  cases cs with
  | nil => simp [split]
  | cons c cs =>
    rw [split]
    split
    · simp
    · split <;> simp

theorem split_cons (sep c : Char) (cs : List Char) :
    ∃ piece rest, split sep cs = piece :: rest ∧ split sep (c :: cs) =
      if c = sep then [] :: piece :: rest else (c :: piece) :: rest := by
  rw [split]
  cases h : split sep cs with
  | nil => exact absurd h (split_ne_nil sep cs)
  | cons piece rest => exact ⟨piece, rest, rfl, rfl⟩

/-- Cutting loses nothing but the separators. -/
@[simp]
theorem join_split (sep : Char) (cs : List Char) : join sep (split sep cs) = cs := by
  induction cs with
  | nil => rfl
  | cons c cs ih =>
    obtain ⟨piece, rest, hpieces, hsplit⟩ := split_cons sep c cs
    rw [hpieces] at ih
    rw [hsplit]
    by_cases hc : c = sep
    · simp [join, hc, ih]
    · cases rest <;> simp_all [join]

theorem mem_join {sep c : Char} {piece : List Char} {pieces : List (List Char)}
    (hpiece : piece ∈ pieces) (hc : c ∈ piece) : c ∈ join sep pieces := by
  fun_induction join sep pieces with
  | case1 => cases hpiece
  | case2 only =>
    rw [List.mem_singleton.mp hpiece] at hc
    exact hc
  | case3 first rest _ ih =>
    rcases List.mem_cons.mp hpiece with rfl | hrest
    · exact List.mem_append_left _ hc
    · exact List.mem_append_right _ (List.mem_cons_of_mem sep (ih hrest))

theorem mem_of_mem_split {sep c : Char} {piece cs : List Char} (hpiece : piece ∈ split sep cs)
    (hc : c ∈ piece) : c ∈ cs := by
  rw [← join_split sep cs]
  exact mem_join hpiece hc

/-- A text is cut at each separator. -/
theorem sep_not_mem_of_mem_split {sep : Char} {piece cs : List Char}
    (hpiece : piece ∈ split sep cs) : sep ∉ piece := by
  induction cs generalizing piece with
  | nil => simp_all [split]
  | cons c cs ih =>
    obtain ⟨first, rest, hpieces, hsplit⟩ := split_cons sep c cs
    rw [hpieces] at ih
    rw [hsplit] at hpiece
    by_cases hc : c = sep
    · rw [if_pos hc] at hpiece
      rcases List.mem_cons.mp hpiece with rfl | h
      · exact List.not_mem_nil
      · exact ih h
    · rw [if_neg hc] at hpiece
      rcases List.mem_cons.mp hpiece with rfl | h
      · have hfirst : sep ∉ first := ih List.mem_cons_self
        simp [hfirst, Ne.symm hc]
      · exact ih (List.mem_cons_of_mem first h)

theorem split_of_not_mem {sep : Char} {piece : List Char} (h : sep ∉ piece) :
    split sep piece = [piece] := by
  induction piece with
  | nil => rfl
  | cons c cs ih =>
    rw [List.mem_cons, not_or] at h
    rw [split, ih h.2]
    exact if_neg (Ne.symm h.1)

theorem split_append_sep {sep : Char} {piece : List Char} (h : sep ∉ piece) (cs : List Char) :
    split sep (piece ++ sep :: cs) = piece :: split sep cs := by
  induction piece with
  | nil =>
    obtain ⟨first, rest, hpieces, hsplit⟩ := split_cons sep sep cs
    rw [List.nil_append, hsplit, if_pos rfl, hpieces]
  | cons c piece ih =>
    rw [List.mem_cons, not_or] at h
    rw [List.cons_append, split, ih h.2]
    exact if_neg (Ne.symm h.1)

/-- Pieces without a separator are found again as they were joined. -/
theorem split_join {sep : Char} {pieces : List (List Char)} (hne : pieces ≠ [])
    (h : ∀ piece ∈ pieces, sep ∉ piece) : split sep (join sep pieces) = pieces := by
  fun_induction join sep pieces with
  | case1 => exact absurd rfl hne
  | case2 piece => exact split_of_not_mem (h piece List.mem_cons_self)
  | case3 piece rest hrest ih =>
    rw [List.forall_mem_cons] at h
    rw [split_append_sep h.1, ih hrest h.2]

/-- `cs` without `stem` at its front, if it starts so. -/
def dropStem? : (stem cs : List Char) → Option (List Char)
  | [], cs => some cs
  | _ :: _, [] => none
  | s :: stem, c :: cs => if s = c then dropStem? stem cs else none

theorem dropStem?_eq_some_iff {stem cs rest : List Char} :
    dropStem? stem cs = some rest ↔ cs = stem ++ rest := by
  induction stem generalizing cs with
  | nil => simp [dropStem?]
  | cons s stem ih =>
    cases cs with
    | nil => simp [dropStem?]
    | cons c cs =>
      rw [dropStem?]
      split
      · rename_i h
        simp [ih, h]
      · rename_i h
        simp [Ne.symm h]

/-- `cs` without the characters at both ends that satisfy `p`. -/
def trimBoth (p : Char → Bool) (cs : List Char) : List Char :=
  ((cs.dropWhile p).reverse.dropWhile p).reverse

def trimEnd (p : Char → Bool) (cs : List Char) : List Char :=
  (cs.reverse.dropWhile p).reverse

/-- How many bytes the text takes in UTF-8. -/
def byteSize : List Char → Nat
  | [] => 0
  | c :: cs => c.utf8Size + byteSize cs

@[simp]
theorem byteSize_append (cs ds : List Char) : byteSize (cs ++ ds) = byteSize cs + byteSize ds := by
  induction cs with
  | nil => simp [byteSize]
  | cons c cs ih => simp [byteSize, ih, Nat.add_assoc]

def bytes (s : String) : List UInt8 := s.toList.flatMap String.utf8EncodeChar

end BindingTables.Text

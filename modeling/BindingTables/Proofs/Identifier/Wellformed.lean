import Mathlib.Data.List.Forall2
import BindingTables.Identifier
import BindingTables.Proofs.Text.Case
import BindingTables.Resolve.Stem

/-! Respelled identifiers are identifiers again: none is emptied, and none comes to start with a
digit. -/

namespace BindingTables.Identifier

open BindingTables.Text

variable {c : Char} {cs ds : List Char}

def isStart (c : Char) : Bool := c.isAlpha || c = '_'

def isPart (c : Char) : Bool := c.isAlphanum || c = '_'

/-- A letter or an underscore, then letters, digits and underscores, all of them ASCII. -/
def isWellformed : List Char → Bool
  | [] => false
  | c :: cs => isStart c && cs.all isPart

theorem toNat_lt_of_val_le {d : Char} (h : c.val ≤ d.val) (hd : d.toNat < 128) :
    c.toNat < 128 :=
  Nat.lt_of_le_of_lt (UInt32.le_iff_toNat_le.mp h) hd

theorem toNat_lt_of_isPart (h : isPart c = true) : c.toNat < 128 := by
  rw [isPart, Char.isAlphanum, Bool.or_eq_true, Bool.or_eq_true, decide_eq_true_eq] at h
  rcases h with (hletter | hdigit) | rfl
  · rcases Bool.or_eq_true_iff.mp hletter with hupper | hlower
    · have hle : c.val ≤ 'Z'.val := (of_decide_eq_true hupper).2
      exact toNat_lt_of_val_le hle (by decide)
    · have hle : c.val ≤ 'z'.val := of_decide_eq_true (Bool.and_eq_true_iff.mp hlower).2
      exact toNat_lt_of_val_le hle (by decide)
  · have hle : c.val ≤ '9'.val := of_decide_eq_true (Bool.and_eq_true_iff.mp hdigit).2
    exact toNat_lt_of_val_le hle (by decide)
  · decide

theorem isStart_eq (h : isPart c = true) : isStart c = !c.isDigit :=
  forall_ascii (P := fun c => isPart c = true → isStart c = !c.isDigit) (by decide)
    (toNat_lt_of_isPart h) h

theorem isPart_of_isStart (h : isStart c = true) : isPart c = true := by
  rw [isStart, Bool.or_eq_true] at h
  rw [isPart, Char.isAlphanum]
  rcases h with h | h <;> simp [h]

theorem isWellformed_iff : isWellformed cs = true ↔
    (∀ c ∈ cs, isPart c = true) ∧ cs ≠ [] ∧ ∀ c ∈ cs.head?, c.isDigit = false := by
  cases cs with
  | nil => simp [isWellformed]
  | cons c cs =>
    simp only [isWellformed, Bool.and_eq_true, List.all_eq_true, List.forall_mem_cons,
      List.head?_cons, Option.mem_def, Option.some.injEq, forall_eq']
    constructor
    · rintro ⟨hstart, hparts⟩
      have hpart := isPart_of_isStart hstart
      refine ⟨⟨hpart, hparts⟩, List.cons_ne_nil c cs, ?_⟩
      rw [isStart_eq hpart] at hstart
      simpa using hstart
    · rintro ⟨⟨hpart, hparts⟩, -, hdigit⟩
      exact ⟨by rw [isStart_eq hpart, hdigit]; rfl, hparts⟩

/-- A character of an identifier that `c` becomes, a digit just if `c` is one. -/
def Respelled (c d : Char) : Prop :=
  isPart c = true → isPart d = true ∧ d.isDigit = c.isDigit

instance (c d : Char) : Decidable (Respelled c d) := inferInstanceAs (Decidable (_ → _))

theorem isPart_of_forall₂ (h : List.Forall₂ Respelled cs ds) (hcs : ∀ c ∈ cs, isPart c = true) :
    ∀ d ∈ ds, isPart d = true := by
  induction h with
  | nil => simp
  | cons hcd _ ih =>
    rw [List.forall_mem_cons] at hcs ⊢
    exact ⟨(hcd hcs.1).1, ih hcs.2⟩

/-- Respelling letter by letter keeps a name well-formed. -/
theorem isWellformed_of_forall₂ (h : List.Forall₂ Respelled cs ds)
    (hcs : isWellformed cs = true) : isWellformed ds = true := by
  rw [isWellformed_iff] at hcs ⊢
  obtain ⟨hparts, hne, hdigit⟩ := hcs
  refine ⟨isPart_of_forall₂ h hparts, ?_, ?_⟩
  · intro hds
    rw [hds, List.forall₂_nil_right_iff] at h
    exact hne h
  · cases h with
    | nil => exact absurd rfl hne
    | cons hcd htail =>
      rintro d ⟨⟩
      rw [(hcd (hparts _ List.mem_cons_self)).2]
      exact hdigit _ rfl

theorem upper_of_isPart (h : isPart c = true) : upper c = [c.toUpper] :=
  upper_of_ascii (toNat_lt_of_isPart h)

theorem respelled_toUpper (c : Char) : Respelled c c.toUpper := fun h =>
  forall_ascii (P := fun c => Respelled c c.toUpper) (by decide) (toNat_lt_of_isPart h) h

theorem respelled_toLower (c : Char) : Respelled c c.toLower := fun h =>
  forall_ascii (P := fun c => Respelled c c.toLower) (by decide) (toNat_lt_of_isPart h) h

theorem respelled_refl (c : Char) : Respelled c c := fun h => ⟨h, rfl⟩

theorem forall₂_raiseDimension (digit : Char) (cs : List Char) :
    List.Forall₂ Respelled cs (raiseDimension digit cs) := by
  fun_induction raiseDimension digit cs with
  | case1 => exact .nil
  | case2 c => exact .cons (respelled_refl c) .nil
  | case3 c e cs h ih =>
    rw [h.2]
    exact .cons (respelled_refl c) (.cons (fun _ => ⟨rfl, rfl⟩) ih)
  | case4 c e cs h ih => exact .cons (respelled_refl c) ih

/-- The first word of a text that starts with one. -/
theorem words_cons (h : c ≠ '_') (cs : List Char) :
    ∃ piece rest, words (c :: cs) = (c :: piece) :: rest := by
  obtain ⟨piece, rest, -, hsplit⟩ := split_cons '_' c cs
  rw [words, hsplit, if_neg h]
  exact ⟨piece, rest.filter (!·.isEmpty), rfl⟩

theorem isPart_capitalise (h : ∀ c ∈ cs, isPart c = true) :
    ∀ d ∈ capitalise cs, isPart d = true := by
  cases cs with
  | nil => simp [capitalise]
  | cons c cs =>
    rw [List.forall_mem_cons] at h
    rw [capitalise, upper_of_isPart h.1, List.singleton_append, List.forall_mem_cons]
    exact ⟨(respelled_toUpper c h.1).1, h.2⟩

theorem isPart_capitalised (h : ∀ c ∈ cs, isPart c = true) :
    ∀ d ∈ (words cs).flatMap capitalise, isPart d = true := by
  intro d hd
  obtain ⟨w, hw, hd⟩ := List.mem_flatMap.mp hd
  have hparts : ∀ c ∈ w, isPart c = true := fun c hc =>
    h c (mem_of_mem_split (List.mem_of_mem_filter hw) hc)
  exact isPart_capitalise hparts d hd

theorem isWellformed_capitalised (h : isWellformed (c :: cs) = true) (hc : c ≠ '_') :
    isWellformed ((words (c :: cs)).flatMap capitalise) = true := by
  rw [isWellformed_iff] at h ⊢
  have hpart := h.1 c List.mem_cons_self
  refine ⟨isPart_capitalised h.1, ?_⟩
  obtain ⟨piece, rest, hwords⟩ := words_cons hc cs
  rw [hwords, List.flatMap_cons, capitalise, upper_of_isPart hpart]
  refine ⟨List.cons_ne_nil _ _, ?_⟩
  rintro d ⟨⟩
  rw [(respelled_toUpper c hpart).2]
  exact h.2.2 c rfl

/-- Of a text that starts with an underscore, the mark of a private name keeps digits away. -/
theorem isWellformed_marked (h : isWellformed cs = true) :
    isWellformed (privateMark cs ++ (words cs).flatMap capitalise) = true := by
  cases cs with
  | nil => cases h
  | cons c cs =>
    by_cases hc : c = '_'
    · subst hc
      exact List.all_eq_true.mpr (isPart_capitalised (isWellformed_iff.mp h).1)
    · have hmark : privateMark (c :: cs) = [] := by simp [privateMark, hc]
      rw [hmark, List.nil_append]
      exact isWellformed_capitalised h hc

/-- The capitalised form of an identifier is one: not empty, and without a digit in front. -/
theorem isWellformed_pascalChars (h : isWellformed cs = true) :
    isWellformed (pascalChars cs) = true := by
  have htwo := isWellformed_of_forall₂ (forall₂_raiseDimension '2' _) (isWellformed_marked h)
  exact isWellformed_of_forall₂ (forall₂_raiseDimension '3' _) htwo

theorem forall₂_lowerText (h : ∀ c ∈ cs, isPart c = true) :
    List.Forall₂ Respelled cs (lowerText cs) := by
  have hascii : ∀ c ∈ cs, c.toNat < 128 := fun c hc => toNat_lt_of_isPart (h c hc)
  rw [lowerText_of_ascii hascii, List.forall₂_map_right_iff, List.forall₂_same]
  intro c _
  exact respelled_toLower c

theorem isWellformed_camelChars? (h : isWellformed cs = true)
    (hds : camelChars? cs = some ds) : isWellformed ds = true := by
  have hpascal := isWellformed_pascalChars h
  rw [camelChars?] at hds
  have hsplit := List.takeWhile_append_dropWhile (p := (!hasCase ·)) (l := pascalChars cs)
  split at hds
  · cases hds
  · rename_i c rest hrest
    cases hds
    rw [hrest, ← List.singleton_append, ← List.append_assoc] at hsplit
    rw [← hsplit] at hpascal
    have hparts := (isWellformed_iff.mp hpascal).1
    rw [List.forall_mem_append] at hparts
    have hsame : List.Forall₂ Respelled rest rest :=
      List.forall₂_same.mpr fun c _ => respelled_refl c
    exact isWellformed_of_forall₂ (List.rel_append (forall₂_lowerText hparts.1) hsame) hpascal

/-- The text is an identifier. -/
def IsValid (s : String) : Prop := isWellformed s.toList = true

instance (s : String) : Decidable (IsValid s) := inferInstanceAs (Decidable (_ = _))

variable {s stem : String}

theorem isValid_pascal (h : IsValid s) : IsValid (pascal s) := by
  rw [IsValid, pascal, String.toList_ofList]
  exact isWellformed_pascalChars h

/-- Also where no camel form exists, and the name stays as it is. -/
theorem isValid_camel (h : IsValid s) : IsValid ((camel? s).getD s) := by
  rw [camel?]
  cases hds : camelChars? s.toList with
  | none => exact h
  | some ds =>
    change isWellformed (String.ofList ds).toList = true
    rw [String.toList_ofList]
    exact isWellformed_camelChars? h hds

theorem mem_markDigit (hc : c ∈ Stem.markDigit cs) : c = 'N' ∨ c ∈ cs := by
  cases cs with
  | nil => cases hc
  | cons d cs =>
    rw [Stem.markDigit] at hc
    split at hc
    · exact List.mem_cons.mp hc
    · exact Or.inr hc

theorem mem_strip (hc : c ∈ (Stem.strip stem s).toList) : c = 'N' ∨ c ∈ s.toList := by
  rw [Stem.strip, String.toList_ofList] at hc
  rcases mem_markDigit hc with hc | hc
  · exact Or.inl hc
  · right
    split at hc
    · exact hc
    · exact hc
    · rename_i rest _ hrest
      rw [dropStem?_eq_some_iff] at hrest
      rw [hrest]
      exact List.mem_append_right _ hc

/-- What is left of an identifier without its stem is marked where it would start with a digit. -/
theorem isValid_strip (h : IsValid s) : IsValid (Stem.strip stem s) := by
  rw [IsValid, isWellformed_iff] at h ⊢
  obtain ⟨hparts, hne, -⟩ := h
  refine ⟨?_, ?_, fun c hc => Stem.not_isDigit_head_strip hc⟩
  · intro c hc
    rcases mem_strip hc with rfl | hc
    · rfl
    · exact hparts c hc
  · intro hempty
    rw [← String.toList_empty, String.toList_inj, Stem.strip_eq_empty_iff] at hempty
    exact hne (by rw [hempty, String.toList_empty])

end BindingTables.Identifier

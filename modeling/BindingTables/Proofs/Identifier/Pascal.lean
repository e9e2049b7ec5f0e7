import BindingTables.Identifier
import BindingTables.Proofs.Text.Case

/-! The capitalised form of a name is a normal form, and all that it loses of the name is
underscores and case. -/

namespace BindingTables.Identifier

open BindingTables.Text

variable {a c digit : Char} {cs w : List Char}

/-- The words of a name, capitalised and put together. -/
def body (cs : List Char) : List Char := (words cs).flatMap capitalise

/-- Both dimensions are written with a capital. -/
def raiseDimensions (cs : List Char) : List Char := raiseDimension '3' (raiseDimension '2' cs)

/-- No dimension is left in lower case. -/
def IsRaised (cs : List Char) : Prop := ¬ ['2', 'd'] <:+: cs ∧ ¬ ['3', 'd'] <:+: cs

/-- What starts the text has no other upper case. -/
def IsCapital (cs : List Char) : Prop := ∀ c ∈ cs.head?, upper c = [c]

theorem pair_infix_cons {b : Char} :
    [a, b] <:+: c :: cs ↔ (a = c ∧ cs.head? = some b) ∨ [a, b] <:+: cs := by
  rw [List.infix_cons_iff, List.cons_prefix_cons]
  cases cs with
  | nil => simp
  | cons e cs =>
    rw [List.cons_prefix_cons, List.head?_cons, Option.some.injEq, eq_comm (a := b)]
    simp [List.nil_prefix]

theorem raiseDimension_cons_of_ne (h : c ≠ digit) (cs : List Char) :
    raiseDimension digit (c :: cs) = c :: raiseDimension digit cs := by
  cases cs with
  | nil => rfl
  | cons e cs => rw [raiseDimension, if_neg (fun hpair => h hpair.1)]

theorem head?_raiseDimension (digit : Char) (cs : List Char) :
    (raiseDimension digit cs).head? = cs.head? := by
  fun_cases raiseDimension digit cs <;> rfl

theorem mem_raiseDimension (h : c ∈ raiseDimension digit cs) : c = 'D' ∨ c ∈ cs := by
  fun_induction raiseDimension digit cs with
  | case1 => cases h
  | case2 => exact .inr h
  | case3 d e cs hpair ih =>
    rw [List.mem_cons, List.mem_cons] at h
    rcases h with h | h | h
    · exact .inr (by simp [h])
    · exact .inl h
    · rcases ih h with h | h
      · exact .inl h
      · exact .inr (by simp [h])
  | case4 d e cs hpair ih =>
    rcases List.mem_cons.mp h with h | h
    · exact .inr (by simp [h])
    · rcases ih h with h | h
      · exact .inl h
      · exact .inr (List.mem_cons_of_mem d h)

/-- A pair left in lower case was there before, behind another digit. -/
theorem infix_of_raiseDimension (ha : a ≠ 'D') (h : [a, 'd'] <:+: raiseDimension digit cs) :
    a ≠ digit ∧ [a, 'd'] <:+: cs := by
  fun_induction raiseDimension digit cs with
  | case1 => simp at h
  | case2 c => simp [pair_infix_cons] at h
  | case3 c e cs hpair ih =>
    rw [pair_infix_cons, pair_infix_cons] at h
    rcases h with ⟨-, h⟩ | ⟨h, -⟩ | h
    · cases h
    · exact absurd h ha
    · obtain ⟨hne, hwithin⟩ := ih h
      exact ⟨hne, hwithin.trans ((List.suffix_cons e cs).trans (List.suffix_cons c _)).isInfix⟩
  | case4 c e cs hpair ih =>
    rw [pair_infix_cons, head?_raiseDimension, List.head?_cons, Option.some.injEq] at h
    rcases h with ⟨rfl, rfl⟩ | h
    · exact ⟨fun hdigit => hpair ⟨hdigit, rfl⟩, pair_infix_cons.mpr (.inl ⟨rfl, rfl⟩)⟩
    · obtain ⟨hne, hwithin⟩ := ih h
      exact ⟨hne, hwithin.trans (List.suffix_cons c _).isInfix⟩

theorem raiseDimension_of_not_infix (h : ¬ [digit, 'd'] <:+: cs) :
    raiseDimension digit cs = cs := by
  fun_induction raiseDimension digit cs with
  | case1 => rfl
  | case2 => rfl
  | case3 c e cs hpair =>
    rw [hpair.1, hpair.2] at h
    exact absurd (pair_infix_cons.mpr (.inl ⟨rfl, rfl⟩)) h
  | case4 c e cs hpair ih =>
    rw [ih fun hwithin => h (hwithin.trans (List.suffix_cons c _).isInfix)]

/-- After both digits no small d is left behind them. -/
theorem isRaised_raiseDimensions (cs : List Char) : IsRaised (raiseDimensions cs) := by
  constructor
  · intro h
    obtain ⟨-, htwo⟩ := infix_of_raiseDimension (by decide) h
    exact (infix_of_raiseDimension (by decide) htwo).1 rfl
  · intro h
    exact (infix_of_raiseDimension (by decide) h).1 rfl

/-- Once raised, there is nothing more to raise. -/
theorem raiseDimensions_of_isRaised (h : IsRaised cs) : raiseDimensions cs = cs := by
  rw [raiseDimensions, raiseDimension_of_not_infix h.1, raiseDimension_of_not_infix h.2]

theorem head?_raiseDimensions (cs : List Char) : (raiseDimensions cs).head? = cs.head? := by
  rw [raiseDimensions, head?_raiseDimension, head?_raiseDimension]

theorem mem_raiseDimensions (h : c ∈ raiseDimensions cs) : c = 'D' ∨ c ∈ cs := by
  rcases mem_raiseDimension h with h | h
  · exact .inl h
  · exact mem_raiseDimension h

theorem privateMark_cases (cs : List Char) : privateMark cs = [] ∨ privateMark cs = ['_'] := by
  fun_cases privateMark cs
  · exact .inr rfl
  · exact .inl rfl

theorem head?_privateMark_append (h : '_' ∉ w) :
    (privateMark cs ++ w).head? = some '_' ↔ cs.head? = some '_' := by
  fun_cases privateMark cs with
  | case1 rest => simp
  | case2 cs hcs =>
    constructor
    · intro hhead
      exact absurd (List.mem_of_head? hhead) h
    · intro hhead
      obtain ⟨rest, rfl⟩ := List.head?_eq_some_iff.mp hhead
      exact absurd rfl (hcs rest)

theorem underscore_not_mem_words (h : w ∈ words cs) : '_' ∉ w :=
  sep_not_mem_of_mem_split ((List.mem_filter.mp h).1)

theorem underscore_not_mem_capitalise (h : '_' ∉ w) : '_' ∉ capitalise w := by
  cases w with
  | nil => exact h
  | cons c w =>
    rw [List.mem_cons, not_or] at h
    obtain ⟨d, ds, hupper, -, hscore⟩ := exists_upper (Ne.symm h.1)
    rw [capitalise, hupper, List.mem_append, not_or]
    exact ⟨hscore, h.2⟩

theorem underscore_not_mem_body (cs : List Char) : '_' ∉ body cs := by
  intro h
  obtain ⟨w, hw, hscore⟩ := List.mem_flatMap.mp h
  exact underscore_not_mem_capitalise (underscore_not_mem_words hw) hscore

/-- A capitalised word starts with a letter that capitalising leaves. -/
theorem isCapital_capitalise (h : '_' ∉ w) (rest : List Char) (hne : w ≠ []) :
    IsCapital (capitalise w ++ rest) := by
  obtain ⟨c, w, rfl⟩ := List.exists_cons_of_ne_nil hne
  rw [List.mem_cons, not_or] at h
  obtain ⟨d, ds, hupper, hself, -⟩ := exists_upper (Ne.symm h.1)
  rw [capitalise, hupper]
  rintro _ ⟨⟩
  exact hself

theorem isCapital_body (cs : List Char) : IsCapital (body cs) := by
  cases hwords : words cs with
  | nil =>
    rw [body, hwords]
    rintro _ ⟨⟩
  | cons w ws =>
    have hw : w ∈ words cs := by rw [hwords]; exact List.mem_cons_self
    have hne : w ≠ [] := by simpa using (List.mem_filter.mp hw).2
    rw [body, hwords, List.flatMap_cons]
    exact isCapital_capitalise (underscore_not_mem_words hw) _ hne

theorem capitalise_of_isCapital (h : IsCapital cs) : capitalise cs = cs := by
  cases cs with
  | nil => rfl
  | cons c cs => rw [capitalise, h c rfl, List.singleton_append]

theorem pascalChars_eq (cs : List Char) :
    pascalChars cs = privateMark cs ++ raiseDimensions (body cs) := by
  rw [pascalChars, ← body]
  rcases privateMark_cases cs with hmark | hmark
  · rw [hmark]
    rfl
  · rw [hmark, List.singleton_append, raiseDimension_cons_of_ne (by decide),
      raiseDimension_cons_of_ne (by decide)]
    rfl

theorem words_underscore (cs : List Char) : words ('_' :: cs) = words cs := by
  have hsplit : split '_' ('_' :: cs) = [] :: split '_' cs := split_append_sep List.not_mem_nil cs
  rw [words, words, hsplit]
  rfl

theorem body_of_not_mem (h : '_' ∉ w) : body w = capitalise w := by
  rw [body, words, split_of_not_mem h]
  cases w with
  | nil => rfl
  | cons c w => simp

theorem body_marked (h : '_' ∉ w) : body (privateMark cs ++ w) = capitalise w := by
  rcases privateMark_cases cs with hmark | hmark
  · rw [hmark, List.nil_append, body_of_not_mem h]
  · rw [hmark, List.singleton_append, body, words_underscore, ← body, body_of_not_mem h]

theorem privateMark_of_head (h : cs.head? ≠ some '_') : privateMark cs = [] := by
  fun_cases privateMark cs with
  | case1 rest => exact absurd rfl h
  | case2 => rfl

/-- A text that is one word, behind the mark of another, keeps this mark. -/
theorem pascalChars_marked (h : '_' ∉ w) : pascalChars (privateMark cs ++ w) =
    privateMark cs ++ raiseDimensions (capitalise w) := by
  have hmark : privateMark (privateMark cs ++ w) = privateMark cs := by
    rcases privateMark_cases cs with hmark | hmark
    · rw [hmark, List.nil_append]
      exact privateMark_of_head fun hhead => h (List.mem_of_head? hhead)
    · rw [hmark, List.singleton_append, privateMark]
  rw [pascalChars_eq, body_marked h, hmark]

/-- What is behind the mark is one word without dimensions that could be raised. -/
theorem underscore_not_mem_raised (cs : List Char) : '_' ∉ raiseDimensions (body cs) := by
  intro h
  rcases mem_raiseDimensions h with h | h
  · cases h
  · exact underscore_not_mem_body cs h

theorem isCapital_raised (cs : List Char) : IsCapital (raiseDimensions (body cs)) := by
  rw [IsCapital, head?_raiseDimensions]
  exact isCapital_body cs

/-- The form is a normal form: taking it twice is taking it once. -/
theorem pascalChars_pascalChars (cs : List Char) :
    pascalChars (pascalChars cs) = pascalChars cs := by
  rw [pascalChars_eq cs, pascalChars_marked (underscore_not_mem_raised cs),
    capitalise_of_isCapital (isCapital_raised cs),
    raiseDimensions_of_isRaised (isRaised_raiseDimensions _)]

theorem head?_pascalChars (cs : List Char) :
    (pascalChars cs).head? = some '_' ↔ cs.head? = some '_' := by
  rw [pascalChars_eq]
  exact head?_privateMark_append (underscore_not_mem_raised cs)

theorem underscore_not_mem_tail (cs : List Char) : '_' ∉ (pascalChars cs).tail := by
  intro h
  rw [pascalChars_eq] at h
  apply underscore_not_mem_raised cs
  rcases privateMark_cases cs with hmark | hmark
  · rw [hmark, List.nil_append] at h
    exact List.mem_of_mem_tail h
  · rw [hmark, List.singleton_append, List.tail_cons] at h
    exact h

theorem isRaised_pascalChars (cs : List Char) : IsRaised (pascalChars cs) :=
  isRaised_raiseDimensions (privateMark cs ++ body cs)

/-! What is lost. -/

/-- The text without its underscores and its case. -/
def bare (s : String) : List Char := lowerText (s.toList.filter (· ≠ '_'))

theorem flatten_words (cs : List Char) : (words cs).flatten = cs.filter (· ≠ '_') := by
  have hdrop : ∀ pieces : List (List Char),
      (pieces.filter (!·.isEmpty)).flatten = pieces.flatten := by
    intro pieces
    induction pieces with
    | nil => rfl
    | cons piece pieces ih => cases piece <;> simp [ih]
  rw [words, hdrop]
  induction cs with
  | nil => rfl
  | cons c cs ih =>
    obtain ⟨piece, rest, hpieces, hsplit⟩ := split_cons '_' c cs
    rw [hpieces] at ih
    rw [hsplit]
    by_cases hc : c = '_'
    · rw [if_pos hc, List.filter_cons_of_neg (by simpa using hc), ← ih]
      rfl
    · rw [if_neg hc, List.filter_cons_of_pos (by simpa using hc), ← ih]
      rfl

theorem ascii_toUpper (h : c.toNat < 128) : c.toUpper.toNat < 128 ∧ c.toUpper.toLower = c.toLower :=
  forall_ascii (P := fun c => c.toUpper.toNat < 128 ∧ c.toUpper.toLower = c.toLower) (by decide) h

theorem map_toLower_capitalise (h : ∀ c ∈ w, c.toNat < 128) :
    (capitalise w).map Char.toLower = w.map Char.toLower := by
  cases w with
  | nil => rfl
  | cons c w =>
    have hc : c.toNat < 128 := h c List.mem_cons_self
    rw [capitalise, upper_of_ascii hc, List.singleton_append, List.map_cons, List.map_cons,
      (ascii_toUpper hc).2]

theorem ascii_of_mem_words (h : ∀ c ∈ cs, c.toNat < 128) (hw : w ∈ words cs) :
    ∀ c ∈ w, c.toNat < 128 :=
  fun c hc => h c (mem_of_mem_split (List.mem_filter.mp hw).1 hc)

/-- But for case and underscores the words are those of the name. -/
theorem map_toLower_body (h : ∀ c ∈ cs, c.toNat < 128) :
    (body cs).map Char.toLower = (cs.filter (· ≠ '_')).map Char.toLower := by
  rw [← flatten_words, body, List.map_flatMap, List.map_flatten, List.flatMap]
  congr 1
  apply List.map_congr_left
  intro w hw
  exact map_toLower_capitalise (ascii_of_mem_words h hw)

theorem map_toLower_raiseDimension (digit : Char) (cs : List Char) :
    (raiseDimension digit cs).map Char.toLower = cs.map Char.toLower := by
  fun_induction raiseDimension digit cs with
  | case1 => rfl
  | case2 => rfl
  | case3 c e cs hpair ih =>
    rw [List.map_cons, List.map_cons, ih, hpair.2]
    rfl
  | case4 c e cs hpair ih =>
    rw [List.map_cons, ih]
    rfl

theorem ascii_pascalChars (h : ∀ c ∈ cs, c.toNat < 128) : ∀ c ∈ pascalChars cs, c.toNat < 128 := by
  intro c hc
  rw [pascalChars_eq, List.mem_append] at hc
  rcases hc with hc | hc
  · rcases privateMark_cases cs with hmark | hmark
    · rw [hmark] at hc
      cases hc
    · rw [hmark, List.mem_singleton] at hc
      rw [hc]
      decide
  · rcases mem_raiseDimensions hc with rfl | hc
    · decide
    · obtain ⟨w, hw, hc⟩ := List.mem_flatMap.mp hc
      have hascii := ascii_of_mem_words h hw
      cases w with
      | nil => cases hc
      | cons e w =>
        rw [List.forall_mem_cons] at hascii
        rw [capitalise, upper_of_ascii hascii.1, List.singleton_append, List.mem_cons] at hc
        rcases hc with rfl | hc
        · exact (ascii_toUpper hascii.1).1
        · exact hascii.2 c hc

theorem filter_pascalChars (cs : List Char) :
    (pascalChars cs).filter (· ≠ '_') = raiseDimensions (body cs) := by
  have hall : (raiseDimensions (body cs)).filter (· ≠ '_') = raiseDimensions (body cs) := by
    rw [List.filter_eq_self]
    intro c hc
    have hne : c ≠ '_' := fun heq => underscore_not_mem_raised cs (heq ▸ hc)
    simpa using hne
  rw [pascalChars_eq, List.filter_append, hall]
  rcases privateMark_cases cs with hmark | hmark <;> simp [hmark]

theorem map_toLower_filter_pascalChars (h : ∀ c ∈ cs, c.toNat < 128) :
    ((pascalChars cs).filter (· ≠ '_')).map Char.toLower =
      (cs.filter (· ≠ '_')).map Char.toLower := by
  rw [filter_pascalChars, raiseDimensions, map_toLower_raiseDimension, map_toLower_raiseDimension,
    map_toLower_body h]

variable {s : String}

theorem bare_of_ascii (h : ∀ c ∈ s.toList, c.toNat < 128) :
    bare s = (s.toList.filter (· ≠ '_')).map Char.toLower :=
  lowerText_of_ascii fun c hc => h c (List.mem_filter.mp hc).1

/-- What the form loses of an ASCII name is its case and its underscores. -/
theorem bare_pascal (h : ∀ c ∈ s.toList, c.toNat < 128) : bare (pascal s) = bare s := by
  have hascii : ∀ c ∈ (pascal s).toList, c.toNat < 128 := by
    rw [pascal, String.toList_ofList]
    exact ascii_pascalChars h
  rw [bare_of_ascii h, bare_of_ascii hascii, pascal, String.toList_ofList,
    map_toLower_filter_pascalChars h]

/-- The capitalised form starts with an underscore just if the name does and has no other, has no
dimension in lower case, and is its own capitalised form; of an ASCII name it keeps all but
underscores and case. -/
theorem pascal_is_normal_form (s : String) :
    ((pascal s).toList.head? = some '_' ↔ s.toList.head? = some '_') ∧
      '_' ∉ (pascal s).toList.tail ∧
      ¬ ['2', 'd'] <:+: (pascal s).toList ∧
      ¬ ['3', 'd'] <:+: (pascal s).toList ∧
      pascal (pascal s) = pascal s ∧
      ((∀ c ∈ s.toList, c.toNat < 128) → bare (pascal s) = bare s) := by
  have hchars : (pascal s).toList = pascalChars s.toList := String.toList_ofList
  have hidem : pascal (pascal s) = pascal s := by
    rw [pascal, hchars, pascalChars_pascalChars, ← pascal]
  rw [hchars]
  obtain ⟨htwo, hthree⟩ := isRaised_pascalChars s.toList
  exact ⟨head?_pascalChars s.toList, underscore_not_mem_tail s.toList, htwo, hthree, hidem,
    bare_pascal⟩

/-- A digit that ends a word meets the letter that starts the next, and the next but one. -/
theorem move_pascal_is_normal_form :
    (∀ c ∈ "__move__local_2_d2d_3d_".toList, c.toNat < 128) ∧
      pascal "__move__local_2_d2d_3d_" = "_MoveLocal2D2D3D" ∧
      bare "_MoveLocal2D2D3D" = bare "__move__local_2_d2d_3d_" := by
  have hascii : ∀ c ∈ "__move__local_2_d2d_3d_".toList, c.toNat < 128 := by simp
  have hpascal : pascal "__move__local_2_d2d_3d_" = "_MoveLocal2D2D3D" := by decide
  have hbare := (pascal_is_normal_form "__move__local_2_d2d_3d_").2.2.2.2.2 hascii
  rw [hpascal] at hbare
  exact ⟨hascii, hpascal, hbare⟩

end BindingTables.Identifier

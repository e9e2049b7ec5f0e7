import Mathlib
import BindingTables.Proofs.Identifier.Pascal
import BindingTables.Proofs.Identifier.Wellformed

/-! The form that starts in lower case is the capitalised form but for its first letter, and is
capitalised to it again where nothing but underscores comes before this letter. -/

namespace BindingTables.Identifier

open BindingTables.Text

variable {c letter : Char} {cs ds before after : List Char}

/-- The second text is the first with its first letter in lower case. -/
def LowersFirst (cs ds : List Char) : Prop :=
  ∃ before letter after, (∀ c ∈ before, c.isAlpha = false) ∧ letter.isAlpha = true ∧
    cs = before ++ letter :: after ∧ ds = before ++ letter.toLower :: after

theorem ascii_of_isAlpha (h : c.isAlpha = true) : c.toNat < 128 :=
  toNat_lt_of_isPart (isPart_of_isStart (Bool.or_eq_true_iff.mpr (.inl h)))

theorem ne_underscore_of_isAlpha (h : c.isAlpha = true) : c ≠ '_' := by
  rintro rfl
  cases h

theorem any_isAlpha_bare (cs : List Char) :
    ((cs.filter (· ≠ '_')).map Char.toLower).any Char.isAlpha = cs.any Char.isAlpha := by
  rw [Bool.eq_iff_iff, List.any_map, List.any_eq_true, List.any_eq_true]
  constructor
  · rintro ⟨c, hc, hletter⟩
    rw [Function.comp_apply, Char.isAlpha_toLower_eq_isAlpha] at hletter
    exact ⟨c, (List.mem_filter.mp hc).1, hletter⟩
  · rintro ⟨c, hc, hletter⟩
    have hkept : decide (c ≠ '_') = true := decide_eq_true (ne_underscore_of_isAlpha hletter)
    refine ⟨c, List.mem_filter.mpr ⟨hc, hkept⟩, ?_⟩
    rwa [Function.comp_apply, Char.isAlpha_toLower_eq_isAlpha]

/-- Respelling neither makes letters nor drops them. -/
theorem any_isAlpha_pascalChars (h : ∀ c ∈ cs, c.toNat < 128) :
    (pascalChars cs).any Char.isAlpha = cs.any Char.isAlpha := by
  rw [← any_isAlpha_bare cs, ← any_isAlpha_bare (pascalChars cs), map_toLower_filter_pascalChars h]

theorem camelChars?_of_no_letter (h : ∀ c ∈ cs, c.toNat < 128)
    (hnone : ∀ c ∈ pascalChars cs, c.isAlpha = false) : camelChars? cs = none := by
  have hdrop : (pascalChars cs).dropWhile (!hasCase ·) = [] := by
    rw [List.dropWhile_eq_nil_iff]
    intro c hc
    rw [hasCase_of_ascii (ascii_pascalChars h c hc), hnone c hc]
    rfl
  rw [camelChars?, hdrop]

/-- Of a text that ends in its first letter, this letter is all that changes. -/
theorem lowerText_first (hascii : ∀ c ∈ before ++ [letter], c.toNat < 128)
    (hbefore : ∀ c ∈ before, c.isAlpha = false) :
    lowerText (before ++ [letter]) = before ++ [letter.toLower] := by
  have hsame : before.map Char.toLower = before := by
    rw [List.map_congr_left (g := id), List.map_id]
    intro c hc
    apply Char.toLower_eq_of_not_isUpper
    exact Bool.eq_false_iff.mp (Bool.or_eq_false_iff.mp (hbefore c hc)).1
  rw [lowerText_of_ascii hascii, List.map_append, hsame]
  rfl

theorem camelChars?_of_letter (h : ∀ c ∈ cs, c.toNat < 128)
    (hpascal : pascalChars cs = before ++ letter :: after)
    (hbefore : ∀ c ∈ before, c.isAlpha = false) (hletter : letter.isAlpha = true) :
    camelChars? cs = some (before ++ letter.toLower :: after) := by
  have hascii := ascii_pascalChars h
  rw [hpascal, List.append_cons] at hascii
  have hstart : ∀ c ∈ before ++ [letter], c.toNat < 128 := fun c hc =>
    hascii c (List.mem_append_left after hc)
  have hskip : ∀ c ∈ before, (!hasCase c) = true := by
    intro c hc
    rw [hasCase_of_ascii (hstart c (List.mem_append_left _ hc)), hbefore c hc]
    rfl
  have hstop : ¬ (!hasCase letter) = true := by
    rw [hasCase_of_ascii (ascii_of_isAlpha hletter), hletter]
    exact Bool.false_ne_true
  have hdrop : (pascalChars cs).dropWhile (!hasCase ·) = letter :: after := by
    rw [hpascal, List.dropWhile_append_of_pos hskip,
      List.dropWhile_cons_of_neg (p := (!hasCase ·)) hstop]
  have htake : (pascalChars cs).takeWhile (!hasCase ·) = before := by
    rw [hpascal, List.takeWhile_append_of_pos hskip,
      List.takeWhile_cons_of_neg (p := (!hasCase ·)) hstop, List.append_nil]
  simp only [camelChars?, hdrop, htake, lowerText_first hstart hbefore]
  simp

/-- A text without letters has no such form, and any other has the one with its first letter in
lower case. -/
theorem camelChars?_cases (h : ∀ c ∈ cs, c.toNat < 128) :
    ((∀ c ∈ pascalChars cs, c.isAlpha = false) ∧ camelChars? cs = none) ∨
      ∃ ds, LowersFirst (pascalChars cs) ds ∧ camelChars? cs = some ds := by
  cases hrest : (pascalChars cs).dropWhile (!·.isAlpha) with
  | nil =>
    have hnone : ∀ c ∈ pascalChars cs, c.isAlpha = false := by
      simpa using List.dropWhile_eq_nil_iff.mp hrest
    exact .inl ⟨hnone, camelChars?_of_no_letter h hnone⟩
  | cons letter after =>
    have hletter : letter.isAlpha = true := by
      have hhead := List.head_dropWhile_not (!Char.isAlpha ·) (l := pascalChars cs)
        (by simp [hrest])
      simpa [hrest] using hhead
    have hbefore : ∀ c ∈ (pascalChars cs).takeWhile (!·.isAlpha), c.isAlpha = false := by
      intro c hc
      simpa using List.mem_takeWhile_imp hc
    have hpascal := List.takeWhile_append_dropWhile (p := (!Char.isAlpha ·)) (l := pascalChars cs)
    rw [hrest] at hpascal
    exact .inr ⟨_, ⟨_, letter, after, hbefore, hletter, hpascal.symm, rfl⟩,
      camelChars?_of_letter h hpascal.symm hbefore hletter⟩

theorem camelChars?_eq_none_iff (h : ∀ c ∈ cs, c.toNat < 128) :
    camelChars? cs = none ↔ ∀ c ∈ cs, c.isAlpha = false := by
  have hletters := any_isAlpha_pascalChars h
  rcases camelChars?_cases h with ⟨hnone, hcamel⟩ | ⟨ds, ⟨before, letter, after, hfirst⟩, hcamel⟩
  · have hall : (pascalChars cs).any Char.isAlpha = false := by simpa using hnone
    rw [hall] at hletters
    simpa [hcamel] using hletters.symm
  · have hany : (pascalChars cs).any Char.isAlpha = true := by simp [hfirst.2.2.1, hfirst.2.1]
    rw [hany] at hletters
    simpa [hcamel] using hletters.symm

theorem camelChars?_pascalChars (cs : List Char) :
    camelChars? (pascalChars cs) = camelChars? cs := by
  rw [camelChars?, pascalChars_pascalChars, ← camelChars?]

theorem LowersFirst.underscore_not_mem_tail (h : LowersFirst cs ds) (hcs : '_' ∉ cs.tail) :
    '_' ∉ ds.tail := by
  obtain ⟨before, letter, after, -, hletter, rfl, rfl⟩ := h
  have hlower : letter.toLower ≠ '_' := by
    apply ne_underscore_of_isAlpha
    rwa [Char.isAlpha_toLower_eq_isAlpha]
  cases before with
  | nil => exact hcs
  | cons b before =>
    simp only [List.cons_append, List.tail_cons, List.mem_append, List.mem_cons, not_or] at hcs ⊢
    exact ⟨hcs.1, Ne.symm hlower, hcs.2.2⟩

theorem words_dropWhile (cs : List Char) : words (cs.dropWhile (· == '_')) = words cs := by
  induction cs with
  | nil => rfl
  | cons c cs ih =>
    by_cases hc : c = '_'
    · rw [hc, List.dropWhile_cons_of_pos rfl, ih, words_underscore]
    · rw [List.dropWhile_cons_of_neg (by simpa using hc)]

/-- A name that starts with a letter, underscores apart, is capitalised by raising this letter. -/
theorem exists_raised_body (hhead : (cs.dropWhile (· == '_')).head? = some letter)
    (hletter : letter.isAlpha = true) :
    ∃ after, raiseDimensions (body cs) = letter.toUpper :: after := by
  obtain ⟨rest, hrest⟩ := List.head?_eq_some_iff.mp hhead
  obtain ⟨piece, pieces, hwords⟩ := words_cons (ne_underscore_of_isAlpha hletter) rest
  rw [← hrest, words_dropWhile] at hwords
  have hbody : (raiseDimensions (body cs)).head? = some letter.toUpper := by
    rw [head?_raiseDimensions, body, hwords, List.flatMap_cons, capitalise,
      upper_of_ascii (ascii_of_isAlpha hletter)]
    rfl
  exact List.head?_eq_some_iff.mp hbody

/-- The form with a small first letter is capitalised to the same form as the name. -/
theorem exists_camelChars? (h : ∀ c ∈ cs, c.toNat < 128)
    (hhead : (cs.dropWhile (· == '_')).head? = some letter) (hletter : letter.isAlpha = true) :
    ∃ ds, camelChars? cs = some ds ∧ pascalChars ds = pascalChars cs := by
  obtain ⟨after, hraised⟩ := exists_raised_body hhead hletter
  have hpascal : pascalChars cs = privateMark cs ++ letter.toUpper :: after := by
    rw [pascalChars_eq, hraised]
  have hmark : ∀ c ∈ privateMark cs, c.isAlpha = false := by
    rcases privateMark_cases cs with hmark | hmark <;> simp [hmark]
  have hupper : letter.toUpper.isAlpha = true := by rwa [Char.isAlpha_toUpper_eq_isAlpha]
  have hlower : letter.toLower.isAlpha = true := by rwa [Char.isAlpha_toLower_eq_isAlpha]
  have hword : '_' ∉ letter.toLower :: after := by
    have hscore := underscore_not_mem_raised cs
    rw [hraised, List.mem_cons, not_or] at hscore
    rw [List.mem_cons, not_or]
    exact ⟨Ne.symm (ne_underscore_of_isAlpha hlower), hscore.2⟩
  have hback : capitalise (letter.toLower :: after) = raiseDimensions (body cs) := by
    rw [capitalise, upper_of_ascii (ascii_of_isAlpha hlower), Char.toUpper_toLower_eq_toUpper,
      hraised]
    rfl
  refine ⟨_, camelChars?_of_letter h hpascal hmark hupper, ?_⟩
  rw [Char.toLower_toUpper_eq_toLower, pascalChars_marked hword, hback,
    raiseDimensions_of_isRaised (isRaised_raiseDimensions _), ← pascalChars_eq]

/-- An ASCII name has a form with a small first letter just if it has a letter. That form is the
capitalised one but for its first letter, keeps one leading underscore at most, and is that of the
capitalised form too; it leads back to the capitalised form if nothing but underscores comes before
the first letter of the name. -/
theorem camel_follows_pascal (s : String) (hascii : ∀ c ∈ s.toList, c.toNat < 128) :
    (camel? s = none ↔ ∀ c ∈ s.toList, c.isAlpha = false) ∧
      (∀ t, camel? s = some t →
        LowersFirst (pascal s).toList t.toList ∧ '_' ∉ t.toList.tail) ∧
      camel? (pascal s) = camel? s ∧
      ∀ letter, (s.toList.dropWhile (· == '_')).head? = some letter → letter.isAlpha = true →
        (camel? s).map pascal = some (pascal s) := by
  have hchars : (pascal s).toList = pascalChars s.toList := String.toList_ofList
  refine ⟨?_, ?_, ?_, ?_⟩
  · rw [camel?, Option.map_eq_none_iff, camelChars?_eq_none_iff hascii]
  · intro t ht
    obtain ⟨ds, hds, rfl⟩ := Option.map_eq_some_iff.mp ht
    rcases camelChars?_cases hascii with ⟨-, hcamel⟩ | ⟨es, hfirst, hcamel⟩
    · rw [hcamel] at hds
      cases hds
    · rw [hcamel] at hds
      cases hds
      rw [hchars, String.toList_ofList]
      exact ⟨hfirst, hfirst.underscore_not_mem_tail (underscore_not_mem_tail s.toList)⟩
  · rw [camel?, hchars, camelChars?_pascalChars, ← camel?]
  · intro letter hhead hletter
    obtain ⟨ds, hcamel, hpascal⟩ := exists_camelChars? hascii hhead hletter
    rw [camel?, hcamel, Option.map_some, Option.map_some, pascal, String.toList_ofList, hpascal,
      ← pascal]

/-- Without that condition there is no way back: capitalising does not see a letter behind a
digit. -/
example : camel? "4_d" = some "4d" ∧ pascal "4d" ≠ pascal "4_d" := by decide

theorem item_camel_follows_pascal :
    (∀ c ∈ "__item_2d_of_3".toList, c.toNat < 128) ∧
      camel? "__item_2d_of_3" = some "_item2DOf3" ∧
      LowersFirst (pascal "__item_2d_of_3").toList "_item2DOf3".toList ∧
      ("__item_2d_of_3".toList.dropWhile (· == '_')).head? = some 'i' ∧
      (camel? "__item_2d_of_3").map pascal = some (pascal "__item_2d_of_3") := by
  have hascii : ∀ c ∈ "__item_2d_of_3".toList, c.toNat < 128 := by simp
  have hcamel : camel? "__item_2d_of_3" = some "_item2DOf3" := by decide
  have hhead : ("__item_2d_of_3".toList.dropWhile (· == '_')).head? = some 'i' := by decide
  obtain ⟨-, hforms, -, hback⟩ := camel_follows_pascal "__item_2d_of_3" hascii
  exact ⟨hascii, hcamel, (hforms _ hcamel).1, hhead, hback 'i' hhead rfl⟩

end BindingTables.Identifier

import BindingTables.Proofs.Json.Scalars

/-! The two written forms of a value are one form in two layouts: they have the same characters, but
for the blanks between them. -/

namespace BindingTables.Json

/-- What a written form puts before an item or a closing bracket, by its depth, and behind a
colon. -/
structure Layout where
  gap : Nat → List Char
  pad : List Char
  blank_gap : ∀ depth, ∀ c ∈ gap depth, isBlank c = true
  blank_pad : ∀ c ∈ pad, isBlank c = true

namespace Layout

/-- All on one line. -/
def dense : Layout := ⟨fun _ => [], [], by simp, by simp⟩

/-- Each item and member on a line of its own. -/
def lined : Layout where
  gap := Value.newline
  pad := [' ']
  blank_gap depth c hc := by
    rcases List.mem_cons.mp hc with rfl | hc
    · rfl
    · rw [List.eq_of_mem_replicate hc]
      rfl
  blank_pad c hc := by
    rw [List.mem_singleton.mp hc]
    rfl

def of (spread : Bool) : Layout := if spread then lined else dense

end Layout

namespace Value

variable (l : Layout)

mutual

/-- The form in a layout, from `depth` on. -/
def write (depth : Nat) : Value → List Char
  | null => ['n', 'u', 'l', 'l']
  | flag true => ['t', 'r', 'u', 'e']
  | flag false => ['f', 'a', 'l', 's', 'e']
  | whole n => wholeDigits n
  | text s => literal s
  | list [] => ['[', ']']
  | list (x :: xs) =>
    '[' :: l.gap (depth + 1) ++ write (depth + 1) x ++ writeItems depth xs
  | object [] => ['{', '}']
  | object ((k, x) :: ms) =>
    '{' :: l.gap (depth + 1) ++ literal k ++ ':' :: l.pad ++ write (depth + 1) x
      ++ writeMembers depth ms

def writeItems (depth : Nat) : List Value → List Char
  | [] => l.gap depth ++ [']']
  | x :: xs => ',' :: l.gap (depth + 1) ++ write (depth + 1) x ++ writeItems depth xs

def writeMembers (depth : Nat) : List (String × Value) → List Char
  | [] => l.gap depth ++ ['}']
  | (k, x) :: ms =>
    ',' :: l.gap (depth + 1) ++ literal k ++ ':' :: l.pad ++ write (depth + 1) x
      ++ writeMembers depth ms

end

mutual

/-- The compact form is the layout without gaps, at any depth. -/
theorem compact_eq_write (v : Value) (depth : Nat) : v.compact = v.write .dense depth := by
  cases v with
  | null => rfl
  | flag b => cases b <;> rfl
  | whole n => rfl
  | text s => rfl
  | list items =>
    cases items with
    | nil => rfl
    | cons x xs =>
      rw [compact, write, compact_eq_write x (depth + 1), compactItems_eq_write xs depth]
      rfl
  | object members =>
    cases members with
    | nil => rfl
    | cons m ms =>
      obtain ⟨k, x⟩ := m
      rw [compact, write, compact_eq_write x (depth + 1), compactMembers_eq_write ms depth]
      simp [Layout.dense]

theorem compactItems_eq_write (xs : List Value) (depth : Nat) :
    compactItems xs = writeItems .dense depth xs := by
  cases xs with
  | nil => rfl
  | cons x xs =>
    rw [compactItems, writeItems, compact_eq_write x (depth + 1), compactItems_eq_write xs depth]
    rfl

theorem compactMembers_eq_write (ms : List (String × Value)) (depth : Nat) :
    compactMembers ms = writeMembers .dense depth ms := by
  cases ms with
  | nil => rfl
  | cons m ms =>
    obtain ⟨k, x⟩ := m
    rw [compactMembers, writeMembers, compact_eq_write x (depth + 1),
      compactMembers_eq_write ms depth]
    simp [Layout.dense]

end

mutual

/-- The spread form is the layout with a line for each item. -/
theorem pretty_eq_write (v : Value) (depth : Nat) : v.pretty depth = v.write .lined depth := by
  cases v with
  | null => rfl
  | flag b => cases b <;> rfl
  | whole n => rfl
  | text s => rfl
  | list items =>
    cases items with
    | nil => rfl
    | cons x xs =>
      rw [pretty, write, pretty_eq_write x (depth + 1), prettyItems_eq_write xs depth]
      rfl
  | object members =>
    cases members with
    | nil => rfl
    | cons m ms =>
      obtain ⟨k, x⟩ := m
      rw [pretty, write, pretty_eq_write x (depth + 1), prettyMembers_eq_write ms depth]
      simp [Layout.lined]

theorem prettyItems_eq_write (xs : List Value) (depth : Nat) :
    prettyItems depth xs = writeItems .lined depth xs := by
  cases xs with
  | nil => rfl
  | cons x xs =>
    rw [prettyItems, writeItems, pretty_eq_write x (depth + 1), prettyItems_eq_write xs depth]
    rfl

theorem prettyMembers_eq_write (ms : List (String × Value)) (depth : Nat) :
    prettyMembers depth ms = writeMembers .lined depth ms := by
  cases ms with
  | nil => rfl
  | cons m ms =>
    obtain ⟨k, x⟩ := m
    rw [prettyMembers, writeMembers, pretty_eq_write x (depth + 1),
      prettyMembers_eq_write ms depth]
    simp [Layout.lined]

end

theorem render_eq_write (v : Value) (spread : Bool) :
    v.render spread = .ofList (v.write (.of spread) 0) := by
  cases spread with
  | false => exact congrArg String.ofList (compact_eq_write v 0)
  | true => exact congrArg String.ofList (pretty_eq_write v 0)

end Value

/-! Tidying. -/

/-- The characters but the blanks between literals; `inside` tells whether a literal is open. -/
def tidy : (inside : Bool) → List Char → List Char
  | _, [] => []
  | false, c :: cs => if isBlank c then tidy false cs else c :: tidy (c = '"') cs
  | true, '\\' :: c :: cs => '\\' :: c :: tidy true cs
  | true, c :: cs => c :: tidy (c ≠ '"') cs

variable {cs rest : List Char} {c : Char}

theorem tidy_blanks (h : ∀ c ∈ cs, isBlank c = true) :
    tidy false (cs ++ rest) = tidy false rest := by
  induction cs with
  | nil => rfl
  | cons c cs ih =>
    rw [List.forall_mem_cons] at h
    rw [List.cons_append, tidy, if_pos h.1, ih h.2]

/-- A character that neither is blank nor opens a literal. -/
def isPlain (c : Char) : Bool := !isBlank c && c ≠ '"'

theorem tidy_plain (h : isPlain c = true) : tidy false (c :: cs) = c :: tidy false cs := by
  simp only [isPlain, Bool.and_eq_true, Bool.not_eq_true', decide_eq_true_eq] at h
  rw [tidy, if_neg (by simp [h.1])]
  simp [h.2]

theorem tidy_plains (h : ∀ c ∈ cs, isPlain c = true) :
    tidy false (cs ++ rest) = cs ++ tidy false rest := by
  induction cs with
  | nil => rfl
  | cons c cs ih =>
    rw [List.forall_mem_cons] at h
    rw [List.cons_append, tidy_plain h.1, ih h.2, List.cons_append]

theorem tidy_inside (hquote : c ≠ '"') (hmark : c ≠ '\\') :
    tidy true (c :: cs) = c :: tidy true cs := by
  rw [tidy]
  · simp [hquote]
  · exact fun _ _ h => absurd h hmark

theorem hexDigit_ne : ∀ n < 16, Text.hexDigit n ≠ '"' ∧ Text.hexDigit n ≠ '\\' := by decide

/-- No escape closes the literal that it stands in. -/
theorem tidy_escapedChar (c : Char) (cs : List Char) :
    tidy true (escapedChar c ++ cs) = escapedChar c ++ tidy true cs := by
  unfold escapedChar
  split
  all_goals try rfl
  rename_i hquote hmark _ _ _ _ _
  split
  · rename_i hcontrol
    have hlt : c.toNat < 32 := hcontrol
    obtain ⟨hquote, hmark⟩ := hexDigit_ne (c.toNat / 16) (by omega)
    obtain ⟨hquote', hmark'⟩ := hexDigit_ne (c.toNat % 16) (by omega)
    simp only [List.cons_append, List.nil_append]
    rw [tidy, tidy_inside (by decide) (by decide), tidy_inside (by decide) (by decide),
      tidy_inside hquote hmark, tidy_inside hquote' hmark']
  · exact tidy_inside hquote hmark

/-- Inside a literal blanks count, and tidying leaves them. -/
theorem tidy_literal (s : String) (cs : List Char) :
    tidy false (literal s ++ cs) = literal s ++ tidy false cs := by
  have hbody (body : List Char) : tidy true (body.flatMap escapedChar ++ '"' :: cs) =
      body.flatMap escapedChar ++ '"' :: tidy false cs := by
    induction body with
    | nil => rfl
    | cons c body ih =>
      simp only [List.flatMap_cons, List.append_assoc, tidy_escapedChar, ih]
  simp only [literal, List.cons_append, List.append_assoc, List.nil_append]
  rw [← hbody]
  rfl

theorem isPlain_wholeDigits {n : Int} (h : c ∈ wholeDigits n) : isPlain c = true := by
  have hplain : ∀ c ∈ Nat.toDigits 10 n.natAbs, isPlain c = true := by
    intro c hc
    have hdigit := isDigit_of_mem_toDigits hc
    simp only [isPlain, isBlank, Bool.and_eq_true, Bool.not_eq_true', decide_eq_true_eq,
      Bool.or_eq_false_iff, decide_eq_false_iff_not]
    refine ⟨⟨⟨⟨?_, ?_⟩, ?_⟩, ?_⟩, ?_⟩ <;> rintro rfl <;> cases hdigit
  rw [wholeDigits] at h
  split at h
  · rcases List.mem_cons.mp h with rfl | h
    · rfl
    · exact hplain c h
  · exact hplain c h

namespace Value

variable {l : Layout}

mutual

/-- Without its blanks a value has the same characters in all layouts. -/
theorem tidy_write (v : Value) (depth : Nat) (rest : List Char) :
    tidy false (v.write l depth ++ rest) = v.compact ++ tidy false rest := by
  cases v with
  | null => rfl
  | flag b => cases b <;> rfl
  | whole n => exact tidy_plains fun c hc => isPlain_wholeDigits hc
  | text s => exact tidy_literal s rest
  | list items =>
    cases items with
    | nil => rfl
    | cons x xs =>
      simp only [write, compact, List.cons_append, List.append_assoc]
      rw [tidy_plain rfl, tidy_blanks (l.blank_gap _), tidy_write x, tidy_writeItems xs]
  | object members =>
    cases members with
    | nil => rfl
    | cons m ms =>
      obtain ⟨k, x⟩ := m
      simp only [write, compact, List.cons_append, List.append_assoc]
      rw [tidy_plain rfl, tidy_blanks (l.blank_gap _), tidy_literal, tidy_plain rfl,
        tidy_blanks l.blank_pad, tidy_write x, tidy_writeMembers ms]

theorem tidy_writeItems (xs : List Value) (depth : Nat) (rest : List Char) :
    tidy false (writeItems l depth xs ++ rest) = compactItems xs ++ tidy false rest := by
  cases xs with
  | nil =>
    simp only [writeItems, compactItems, List.append_assoc, List.cons_append, List.nil_append]
    rw [tidy_blanks (l.blank_gap _), tidy_plain rfl]
  | cons x xs =>
    simp only [writeItems, compactItems, List.cons_append, List.append_assoc]
    rw [tidy_plain rfl, tidy_blanks (l.blank_gap _), tidy_write x, tidy_writeItems xs]

theorem tidy_writeMembers (ms : List (String × Value)) (depth : Nat)
    (rest : List Char) :
    tidy false (writeMembers l depth ms ++ rest) = compactMembers ms ++ tidy false rest := by
  cases ms with
  | nil =>
    simp only [writeMembers, compactMembers, List.append_assoc, List.cons_append, List.nil_append]
    rw [tidy_blanks (l.blank_gap _), tidy_plain rfl]
  | cons m ms =>
    obtain ⟨k, x⟩ := m
    simp only [writeMembers, compactMembers, List.cons_append, List.append_assoc]
    rw [tidy_plain rfl, tidy_blanks (l.blank_gap _), tidy_literal, tidy_plain rfl,
      tidy_blanks l.blank_pad, tidy_write x, tidy_writeMembers ms]

end

end Value

/-! No line break. -/

theorem toNat_of_mem_escapedChar {d : Char} (h : d ∈ escapedChar c) : 32 ≤ d.toNat := by
  have hhex : ∀ n < 16, 32 ≤ (Text.hexDigit n).toNat := by decide
  unfold escapedChar at h
  split at h
  all_goals try
    simp only [List.mem_cons, List.not_mem_nil, or_false] at h
    rcases h with rfl | rfl <;> decide
  split at h
  · rename_i hcontrol
    have hlt : c.toNat < 32 := hcontrol
    simp only [List.mem_cons, List.not_mem_nil, or_false] at h
    rcases h with rfl | rfl | rfl | rfl | rfl | rfl
    · decide
    · decide
    · decide
    · decide
    · exact hhex _ (by omega)
    · exact hhex _ (by omega)
  · rename_i hplain
    have hge : ¬ c.toNat < 32 := hplain
    rw [List.mem_singleton.mp h]
    omega

/-- A literal stands on one line, whatever is in its text. -/
theorem newline_not_mem_literal (s : String) : '\n' ∉ literal s := by
  have hbody : '\n' ∉ s.toList.flatMap escapedChar := by
    intro h
    obtain ⟨c, -, hc⟩ := List.mem_flatMap.mp h
    exact absurd (toNat_of_mem_escapedChar hc) (by decide)
  simpa [literal] using hbody

theorem newline_not_mem_wholeDigits (n : Int) : '\n' ∉ wholeDigits n := by
  intro h
  cases isPlain_wholeDigits h

namespace Value

mutual

/-- The compact form is one line, since literals escape their line breaks. -/
theorem newline_not_mem_compact (v : Value) : '\n' ∉ v.compact := by
  cases v with
  | null => decide
  | flag b => cases b <;> decide
  | whole n => exact newline_not_mem_wholeDigits n
  | text s => exact newline_not_mem_literal s
  | list items =>
    cases items with
    | nil => decide
    | cons x xs =>
      simp [compact, newline_not_mem_compact x, newline_not_mem_compactItems xs]
  | object members =>
    cases members with
    | nil => decide
    | cons m ms =>
      obtain ⟨k, x⟩ := m
      simp [compact, newline_not_mem_literal k, newline_not_mem_compact x,
        newline_not_mem_compactMembers ms]

theorem newline_not_mem_compactItems (xs : List Value) : '\n' ∉ compactItems xs := by
  cases xs with
  | nil => decide
  | cons x xs =>
    simp [compactItems, newline_not_mem_compact x, newline_not_mem_compactItems xs]

theorem newline_not_mem_compactMembers (ms : List (String × Value)) :
    '\n' ∉ compactMembers ms := by
  cases ms with
  | nil => decide
  | cons m ms =>
    obtain ⟨k, x⟩ := m
    simp [compactMembers, newline_not_mem_literal k, newline_not_mem_compact x,
      newline_not_mem_compactMembers ms]

end

end Value

end BindingTables.Json

import Mathlib
import BindingTables.Api.Validation
import BindingTables.Proofs.Source.Extent
import BindingTables.Proofs.Text.Indent

/-! A fault is reported at a line and a column, and marked in the text at that line and column. The
column is one of bytes where it is reported and one of characters where it is marked, so the mark is
at the fault as long as the line has only ASCII characters before it. -/

namespace BindingTables

open BindingTables.Text BindingTables.Json

variable {text : String} {cs line rest : List Char} {lines before : List (List Char)}
  {here : Place} {remaining offset column i j : Nat}

namespace Text

theorem utf8Size_eq_one_iff {c : Char} : c.utf8Size = 1 ↔ c.toNat < 128 := by
  rw [Char.utf8Size_eq_one_iff, UInt32.le_iff_toNat_le]
  exact Nat.lt_succ_iff.symm

/-- As many bytes as characters. -/
theorem byteSize_eq_length_iff (cs : List Char) :
    byteSize cs = cs.length ↔ ∀ c ∈ cs, c.toNat < 128 := by
  induction cs with
  | nil => simp [byteSize]
  | cons c cs ih =>
    have hpos := c.utf8Size_pos
    have hrest := length_le_byteSize cs
    rw [List.forall_mem_cons, ← ih, ← utf8Size_eq_one_iff, byteSize, List.length_cons]
    omega

/-- The bytes of the lines, each with the newline behind it. -/
def terminatedSize : List (List Char) → Nat
  | [] => 0
  | line :: lines => byteSize line + 1 + terminatedSize lines

end Text

/-! Where a fault is reported. -/

namespace Json

theorem advance_within (here : Place) (h : '\n' ∉ line) (hrest : ∀ c ∈ rest.head?, c = '\n')
    (hle : remaining ≤ byteSize line) :
    here.advance (line ++ rest) remaining = ⟨here.line, here.column + remaining⟩ := by
  induction line generalizing here remaining with
  | nil =>
    obtain rfl : remaining = 0 := Nat.le_zero.mp hle
    cases rest with
    | nil => rfl
    | cons c rest =>
      obtain rfl := hrest c rfl
      rfl
  | cons c line ih =>
    rw [List.mem_cons, not_or] at h
    rw [byteSize] at hle
    rw [List.cons_append, Place.advance]
    split
    · rfl
    · rw [if_neg (Ne.symm h.1), ih _ h.2 (by omega)]
      congr 1
      dsimp only
      omega

theorem advance_past (h : '\n' ∉ line) (rest : List Char) (remaining : Nat) :
    here.advance (line ++ '\n' :: rest) (byteSize line + 1 + remaining) =
      Place.advance ⟨here.line + 1, 0⟩ rest remaining := by
  have hnewline : ('\n').utf8Size = 1 := rfl
  induction line generalizing here with
  | nil =>
    rw [byteSize, List.nil_append, Place.advance, if_neg (by omega), if_pos rfl]
    congr 1
    omega
  | cons c line ih =>
    rw [List.mem_cons, not_or] at h
    have hleft : c.utf8Size + byteSize line + 1 + remaining - c.utf8Size =
        byteSize line + 1 + remaining := by omega
    rw [byteSize, List.cons_append, Place.advance, if_neg (by omega), if_neg (Ne.symm h.1), hleft,
      ih h.2]

/-- The offset is in the line after the lines `before`, `column` bytes from the start of it. -/
structure Splits (lines : List (List Char)) (offset column : Nat) (before : List (List Char))
    (line : List Char) (after : List (List Char)) : Prop where
  lines_eq : lines = before ++ line :: after
  column_le : column ≤ byteSize line
  offset_eq : terminatedSize before + column = offset

theorem exists_splits (row : Nat) (hne : lines ≠ []) (h : ∀ line ∈ lines, '\n' ∉ line)
    (hle : offset ≤ byteSize (join '\n' lines)) :
    ∃ before line after column, Splits lines offset column before line after ∧
      Place.advance ⟨row, 0⟩ (join '\n' lines) offset = ⟨row + before.length, column⟩ := by
  fun_induction join '\n' lines generalizing row offset with
  | case1 => exact absurd rfl hne
  | case2 line =>
    refine ⟨[], line, [], offset, ⟨rfl, hle, Nat.zero_add _⟩, ?_⟩
    have hplace : Place.advance ⟨row, 0⟩ (line ++ []) offset = ⟨row, 0 + offset⟩ :=
      advance_within _ (h line List.mem_cons_self) (by simp) hle
    rw [List.append_nil, Nat.zero_add] at hplace
    exact hplace
  | case3 line rest hrest ih =>
    rw [List.forall_mem_cons] at h
    rcases Nat.lt_or_ge (byteSize line) offset with hpast | hin
    · -- an offset behind the last byte of the line has passed its newline too
      obtain ⟨further, rfl⟩ := Nat.exists_eq_add_of_lt hpast
      have hfurther : further ≤ byteSize (join '\n' rest) := by
        rw [byteSize_append, byteSize, show ('\n').utf8Size = 1 from rfl] at hle
        omega
      obtain ⟨before, target, after, column, hsplits, hplace⟩ := ih (row + 1) hrest h.2 hfurther
      refine ⟨line :: before, target, after, column, ⟨?_, hsplits.column_le, ?_⟩, ?_⟩
      · rw [hsplits.lines_eq, List.cons_append]
      · rw [terminatedSize, Nat.add_assoc, hsplits.offset_eq]
        omega
      · rw [show byteSize line + further + 1 = byteSize line + 1 + further by omega,
          advance_past h.1, hplace, List.length_cons]
        congr 1
        omega
    · refine ⟨[], line, rest, offset, ⟨rfl, hin, Nat.zero_add _⟩, ?_⟩
      rw [advance_within _ h.1 (by simp) hin, Nat.zero_add]
      rfl

end Json

/-! Where it is marked. -/

section Characters

variable {target width : Nat}

theorem characterOffset_past (h : '\n' ∉ line) (hrow : i + 1 < target) (rest : List Char) :
    characterOffset target width (i, j) (line ++ '\n' :: rest) =
      byteSize line + 1 + characterOffset target width (i + 1, 0) rest := by
  induction line generalizing j with
  | nil =>
    rw [List.nil_append, characterOffset, if_neg (by dsimp only; omega), if_pos rfl, byteSize]
  | cons c line ih =>
    rw [List.mem_cons, not_or] at h
    rw [List.cons_append, characterOffset, if_neg (by dsimp only; omega), if_neg (Ne.symm h.1),
      ih h.2, byteSize]
    omega

/-- The lines before the line of the mark are counted in bytes. -/
theorem characterOffset_lines (h : ∀ line ∈ before, '\n' ∉ line) (hne : lines ≠ [])
    (hrow : i + before.length < target) :
    characterOffset target width (i, 0) (join '\n' (before ++ lines)) =
      terminatedSize before +
        characterOffset target width (i + before.length, 0) (join '\n' lines) := by
  induction before generalizing i with
  | nil => simp [terminatedSize]
  | cons line before ih =>
    rw [List.forall_mem_cons] at h
    have hlength : i + (line :: before).length = i + 1 + before.length := by
      rw [List.length_cons]
      omega
    rw [hlength] at hrow ⊢
    rw [List.cons_append, join_cons line (List.append_ne_nil_of_right_ne_nil before hne),
      characterOffset_past h.1 (by omega), ih h.2 hrow, terminatedSize]
    omega

/-- On its line the mark goes by characters. -/
theorem characterOffset_within (h : '\n' ∉ line) (hrow : target ≤ i + 1)
    (hwidth : width ≤ j + line.length + 1) :
    characterOffset target width (i, j) (line ++ rest) = byteSize (line.take (width - 1 - j)) := by
  -- `j` is the column that the walk has come to
  induction line generalizing j with
  | nil =>
    rw [List.take_nil, byteSize, List.nil_append]
    cases rest with
    | nil => rfl
    | cons c rest => exact if_pos ⟨hrow, hwidth⟩
  | cons c line ih =>
    rw [List.mem_cons, not_or] at h
    rw [List.length_cons] at hwidth
    rw [List.cons_append, characterOffset]
    split
    · rename_i hat
      rw [show width - 1 - j = 0 by dsimp only at hat; omega, List.take_zero, byteSize]
    · rename_i hat
      have hlt : j + 1 < width := Nat.lt_of_not_le fun hle => hat ⟨hrow, hle⟩
      rw [if_neg (Ne.symm h.1), ih h.2 (by omega), show width - 1 - j = width - 1 - (j + 1) + 1 by
        omega, List.take_succ_cons, byteSize]

/-- A line with too few characters is passed as a whole. -/
theorem characterOffset_beyond (h : '\n' ∉ line) (hwidth : j + line.length + 1 < width) :
    characterOffset target width (i, j) (line ++ rest) =
      byteSize line + characterOffset target width (i, j + line.length) rest := by
  induction line generalizing j with
  | nil => simp [byteSize]
  | cons c line ih =>
    rw [List.mem_cons, not_or] at h
    have hlength : j + (c :: line).length = j + 1 + line.length := by
      rw [List.length_cons]
      omega
    rw [hlength] at hwidth ⊢
    rw [List.cons_append, characterOffset, if_neg (by dsimp only; omega), if_neg (Ne.symm h.1),
      ih h.2 hwidth, byteSize]
    omega

/-- The mark for the column is `shift` bytes from the start of the line. -/
structure MarksColumn (line : List Char) (after : List (List Char)) (column shift : Nat) :
    Prop where
  eq : column ≤ line.length + 1 → shift = byteSize (line.take (column - 1))
  le : column - 1 ≤ shift
  eq_iff : shift = column - 1 ↔ ∀ c ∈ line.take (column - 1), c.toNat < 128
  le_iff : shift ≤ byteSize line ↔ column ≤ line.length + 1 ∨ after = []

theorem marksColumn_within (h : '\n' ∉ line) (hwidth : width ≤ line.length + 1)
    (after : List (List Char)) :
    MarksColumn line after width
      (characterOffset (i + 1) width (i, 0) (join '\n' (line :: after))) := by
  obtain ⟨rest, hrest⟩ : ∃ rest, join '\n' (line :: after) = line ++ rest := by
    cases after with
    | nil => exact ⟨[], (List.append_nil line).symm⟩
    | cons next after => exact ⟨_, join_cons line (List.cons_ne_nil next after)⟩
  have hlength : (line.take (width - 1)).length = width - 1 := List.length_take_of_le (by omega)
  have hle := length_le_byteSize (line.take (width - 1))
  have hline : byteSize (line.take (width - 1)) + byteSize (line.drop (width - 1)) =
      byteSize line := by rw [← byteSize_append, List.take_append_drop]
  rw [hrest, characterOffset_within h (Nat.le_refl _) (by omega), Nat.sub_zero]
  constructor
  case eq => exact fun _ => rfl
  case le => omega
  case eq_iff => rw [← byteSize_eq_length_iff, hlength]
  case le_iff => exact iff_of_true (by omega) (.inl hwidth)

/-- The mark has left the characters of a line that has too few of them. It is on the line only if
the text ends there. -/
theorem characterOffset_short (target i : Nat) (h : '\n' ∉ line)
    (hwidth : line.length + 1 < width) (after : List (List Char)) :
    byteSize line ≤ characterOffset target width (i, 0) (join '\n' (line :: after)) ∧
      (characterOffset target width (i, 0) (join '\n' (line :: after)) ≤ byteSize line ↔
        after = []) := by
  have hbeyond (rest : List Char) : characterOffset target width (i, 0) (line ++ rest) =
      byteSize line + characterOffset target width (i, 0 + line.length) rest :=
    characterOffset_beyond h (by omega)
  cases after with
  | nil =>
    have hend := hbeyond []
    rw [List.append_nil, characterOffset, Nat.add_zero] at hend
    rw [join, hend]
    simp
  | cons next after =>
    rw [join_cons line (List.cons_ne_nil next after), hbeyond, characterOffset,
      if_neg (by dsimp only; omega), if_pos rfl]
    simp [Nat.add_comm 1]

/-- A line can have the bytes for the column and not the characters. -/
theorem marksColumn_beyond (h : '\n' ∉ line) (hwidth : line.length + 1 < width)
    (hbytes : width ≤ byteSize line) (after : List (List Char)) :
    MarksColumn line after width
      (characterOffset (i + 1) width (i, 0) (join '\n' (line :: after))) := by
  obtain ⟨hle, hend⟩ := characterOffset_short (i + 1) i h hwidth after
  have hascii := byteSize_eq_length_iff line
  constructor
  case eq => exact fun hwithin => absurd hwithin (Nat.not_le_of_lt hwidth)
  case le => omega
  case eq_iff =>
    rw [List.take_of_length_le (by omega), ← hascii]
    omega
  case le_iff => simp [hend, Nat.not_le_of_lt hwidth]

end Characters

/-- The offset of the line, counted from one. -/
def lineStart (text : String) (line : Nat) : Nat := terminatedSize ((linesOf text).take (line - 1))

/-- The offset of the place, if its columns, counted from one, are bytes. -/
def byteOffset (text : String) (place : Place) : Nat :=
  lineStart text place.line + (max place.column 1 - 1)

/-- The mark of a fault that is reported at the place, which is on the line. -/
structure Marks (text : String) (place : Place) (line : List Char) (mark : Span) : Prop where
  line_pos : 1 ≤ place.line
  line_eq : (linesOf text)[place.line - 1]? = some line
  column_le : place.column ≤ byteSize line
  length_eq : mark.length = 1
  start_eq : place.column ≤ line.length + 1 →
    mark.start = lineStart text place.line + byteSize (line.take (place.column - 1))
  le_start : byteOffset text place ≤ mark.start
  start_eq_iff : mark.start = byteOffset text place ↔
    ∀ c ∈ line.take (place.column - 1), c.toNat < 128
  on_line_iff : mark.start ≤ lineStart text place.line + byteSize line ↔
    place.column ≤ line.length + 1 ∨ place.line = (linesOf text).length

namespace Json.Splits

variable {column : Nat} {after : List (List Char)}

theorem newline_not_mem (h : Splits (linesOf text) offset column before line after) :
    ∀ l ∈ before ++ line :: after, '\n' ∉ l := by
  rw [← h.lines_eq]
  exact fun l hl => sep_not_mem_of_mem_split hl

theorem lineStart_eq (h : Splits (linesOf text) offset column before line after) :
    lineStart text (before.length + 1) = terminatedSize before := by
  rw [lineStart, h.lines_eq, Nat.add_sub_cancel, List.take_left]

theorem byteOffset_eq (h : Splits (linesOf text) offset column before line after) :
    byteOffset text ⟨before.length + 1, column⟩ = terminatedSize before + (column - 1) := by
  rw [byteOffset, h.lineStart_eq]
  dsimp only
  omega

theorem characterOffset_eq (h : Splits (linesOf text) offset column before line after) :
    characterOffset (before.length + 1) column (0, 0) text.toList =
      terminatedSize before +
        characterOffset (before.length + 1) column (before.length, 0)
          (join '\n' (line :: after)) := by
  have hbefore := (List.forall_mem_append.mp h.newline_not_mem).1
  rw [← join_split '\n' text.toList, ← linesOf, h.lines_eq,
    characterOffset_lines hbefore (List.cons_ne_nil line after) (by omega), Nat.zero_add]

theorem marks (h : Splits (linesOf text) offset column before line after) :
    Marks text ⟨before.length + 1, column⟩ line
      ⟨characterOffset (before.length + 1) column (0, 0) text.toList, 1⟩ := by
  have hline := h.newline_not_mem line (by simp)
  have hlines : (linesOf text).length = before.length + (after.length + 1) := by
    rw [h.lines_eq, List.length_append, List.length_cons]
  obtain ⟨shift, hshift, hmark⟩ : ∃ shift, characterOffset (before.length + 1) column (0, 0)
      text.toList = terminatedSize before + shift ∧ MarksColumn line after column shift := by
    refine ⟨_, h.characterOffset_eq, ?_⟩
    rcases Nat.lt_or_ge (line.length + 1) column with hbeyond | hwithin
    · exact marksColumn_beyond hline hbeyond h.column_le after
    · exact marksColumn_within hline hwithin after
  rw [hshift]
  constructor
  case line_pos => exact Nat.le_add_left 1 _
  case line_eq =>
    rw [h.lines_eq, Nat.add_sub_cancel, List.getElem?_append_right (Nat.le_refl _), Nat.sub_self,
      List.getElem?_cons_zero]
  case column_le => exact h.column_le
  case length_eq => rfl
  case start_eq =>
    intro hwithin
    rw [h.lineStart_eq, ← hmark.eq hwithin]
  case le_start =>
    rw [h.byteOffset_eq]
    exact Nat.add_le_add_left hmark.le _
  case start_eq_iff => rw [h.byteOffset_eq, Nat.add_left_cancel_iff, hmark.eq_iff]
  case on_line_iff =>
    rw [h.lineStart_eq, Nat.add_le_add_iff_left, hmark.le_iff, hlines, ← List.length_eq_zero_iff]
    dsimp only
    omega

end Json.Splits

/-- An offset of the text is reported at its line and its column there, and marked so. -/
theorem exists_marks (hle : offset ≤ byteSize text.toList) :
    ∃ place line, Place.ofOffset text.toList offset = place ∧
      lineStart text place.line + place.column = offset ∧
      Marks text place line ⟨characterOffset place.line place.column (0, 0) text.toList, 1⟩ := by
  have hjoin := join_split '\n' text.toList
  rw [← hjoin] at hle
  obtain ⟨before, line, after, column, hsplits, hplace⟩ := exists_splits 1
    (split_ne_nil '\n' text.toList) (fun _ hl => sep_not_mem_of_mem_split hl) hle
  rw [hjoin, Nat.add_comm] at hplace
  refine ⟨⟨before.length + 1, column⟩, line, hplace, ?_, hsplits.marks⟩
  rw [hsplits.lineStart_eq, hsplits.offset_eq]

/-- Only a dump that cannot be read is refused as malformed. -/
theorem ofJson_of_malformedApi {file shown : String} {cause : ReadError} {span : Option Span}
    (h : Api.parse file text = .error (.malformedApi shown cause span)) :
    Api.ofJson text = .error cause := by
  unfold Api.parse at h
  split at h
  · rename_i hread
    cases h
    exact hread
  · unfold Api.validate at h
    split at h
    · rename_i flaw _
      cases flaw <;> cases h
    · cases h

/-- What cannot be read of a text is marked at the column where it is reported, counted in
characters though the reader counts bytes: at the fault exactly if the line is ASCII before it, and
behind the line, unless that is the last, if the line has too few characters. -/
theorem errors_marked_by_character (file text : String) :
    (∀ fault : Fault, fault.offset ≤ byteSize text.toList →
      ∃ place line mark, (ReadError.ofFault text.toList fault).place = some place ∧
        lineStart text place.line + place.column = fault.offset ∧
        InputError.ofReadError file text.toList (.ofFault text.toList fault) =
          .malformedApi file (.ofFault text.toList fault) (some mark) ∧
        Marks text place line mark) ∧
    (∀ cause, Api.ofJson text = .error cause →
      ∃ place line mark, cause.place = some place ∧
        Api.parse file text = .error (.malformedApi file cause (some mark)) ∧
        Marks text place line mark) ∧
    ∀ shown cause span, Api.parse file text = .error (.malformedApi shown cause span) →
      Api.ofJson text = .error cause := by
  refine ⟨?_, ?_, fun shown cause span h => ofJson_of_malformedApi h⟩
  · intro fault hfault
    obtain ⟨place, line, hplace, hoffset, hmarks⟩ := exists_marks hfault
    refine ⟨place, line, _, congrArg some hplace, hoffset, ?_, hmarks⟩
    rw [← hplace]
    rfl
  · intro cause hread
    obtain ⟨offset, hoffset, hcause⟩ := Api.isIn_of_ofJson hread
    obtain ⟨place, line, hplace, -, hmarks⟩ := exists_marks hoffset
    rw [hplace] at hcause
    refine ⟨place, line, _, hcause, ?_, hmarks⟩
    rw [Api.parse, hread]
    dsimp only
    rw [InputError.ofReadError, hcause]
    rfl

/-- A comma too many, after a key that is not ASCII, and a line of blanks. -/
def accentedDump : String := "\x7b\"éé\":1,\x7d\n            "

def accentedError : ReadError := ⟨.trailingComma, some ⟨1, 11⟩⟩

theorem accentedDump_marked :
    (∃ place line mark, (ReadError.ofFault accentedDump.toList ⟨.trailingComma, 11⟩).place =
        some place ∧
      lineStart accentedDump place.line + place.column = 11 ∧
      InputError.ofReadError "api.json" accentedDump.toList
          (.ofFault accentedDump.toList ⟨.trailingComma, 11⟩) =
        .malformedApi "api.json" (.ofFault accentedDump.toList ⟨.trailingComma, 11⟩) (some mark) ∧
      Marks accentedDump place line mark) ∧
    (∃ place line mark, accentedError.place = some place ∧
      Api.parse "api.json" accentedDump =
        .error (.malformedApi "api.json" accentedError (some mark)) ∧
      Marks accentedDump place line mark) ∧
    Api.ofJson accentedDump = .error accentedError :=
  ⟨(errors_marked_by_character "api.json" accentedDump).1 ⟨.trailingComma, 11⟩ (by decide),
    (errors_marked_by_character "api.json" accentedDump).2.1 accentedError (by cbv),
    (errors_marked_by_character "api.json" accentedDump).2.2 "api.json" accentedError
      (some ⟨22, 1⟩) (by cbv)⟩

/-- The fault is on the first line, ten bytes into the text, and the mark is on the second line. -/
theorem accentedDump_marked_late :
    Api.parse "api.json" accentedDump =
        .error (.malformedApi "api.json" accentedError (some ⟨22, 1⟩)) ∧
      accentedError.place = some ⟨1, 11⟩ ∧ byteOffset accentedDump ⟨1, 11⟩ = 10 ∧
      lineStart accentedDump 2 = 12 :=
  ⟨by cbv, rfl, by cbv, by cbv⟩

end BindingTables

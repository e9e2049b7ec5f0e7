import Mathlib.Data.List.Forall2
import BindingTables.Text.Blank
import BindingTables.Text.Indent

/-! Indentation composes: levels add up, nothing of the text is lost, and a listing can be indented
block by block or as a whole. -/

namespace BindingTables

open BindingTables.Text

variable {style : Indent} {a b k n : Nat} {cs : List Char} {blocks more : List (List Char)}

def linesOf (text : String) : List (List Char) := split '\n' text.toList

/-- The last character of the line is white space. -/
def EndsBlank (line : List Char) : Prop := ∃ c, line.getLast? = some c ∧ isWhiteSpace c = true

/-! Texts put together from several. -/

namespace Text

theorem split_append_join {sep : Char} {cs ds : List Char} :
    split sep (cs ++ sep :: ds) = split sep cs ++ split sep ds := by
  induction cs with
  | nil =>
    obtain ⟨piece, rest, hpieces, hsplit⟩ := split_cons sep sep ds
    rw [List.nil_append, hsplit, if_pos rfl, hpieces]
    rfl
  | cons c cs ih =>
    obtain ⟨piece, rest, hpieces, hsplit⟩ := split_cons sep c cs
    rw [List.cons_append, split, ih, hsplit, hpieces]
    by_cases hc : c = sep <;> simp [hc]

/-- A text made of blocks has the pieces of its blocks. -/
theorem split_join_blocks {sep : Char} (h : blocks ≠ []) :
    split sep (join sep blocks) = blocks.flatMap (split sep) := by
  fun_induction join sep blocks with
  | case1 => exact absurd rfl h
  | case2 block => simp
  | case3 block rest hrest ih => rw [split_append_join, ih hrest, List.flatMap_cons]

theorem join_cons {sep : Char} (block : List Char) (h : blocks ≠ []) :
    join sep (block :: blocks) = block ++ sep :: join sep blocks := by
  cases blocks with
  | nil => exact absurd rfl h
  | cons => rfl

theorem join_append {sep : Char} (h : blocks ≠ []) (h' : more ≠ []) :
    join sep (blocks ++ more) = join sep blocks ++ sep :: join sep more := by
  fun_induction join sep blocks with
  | case1 => exact absurd rfl h
  | case2 block => rw [List.singleton_append, join_cons block h']
  | case3 block rest hrest ih =>
    have hmore : rest ++ more ≠ [] := List.append_ne_nil_of_right_ne_nil rest h'
    rw [List.cons_append, join_cons block hmore, ih hrest, List.append_assoc, List.cons_append]

end Text

namespace Indent

/-! One line. -/

theorem lead_add (style : Indent) (a b : Nat) :
    style.lead (a + b) = style.lead a ++ style.lead b := by
  rw [lead, lead, lead, List.replicate_add, List.flatten_append]

theorem newline_not_mem_unit (style : Indent) : '\n' ∉ style.unit := by
  unfold unit
  split <;> decide

theorem newline_not_mem_lead (style : Indent) (k : Nat) : '\n' ∉ style.lead k := by
  rw [lead, List.mem_flatten]
  rintro ⟨unit, hunit, hmem⟩
  rw [(List.mem_replicate.mp hunit).2] at hmem
  exact newline_not_mem_unit style hmem

theorem line_of_ne_nil (h : cs ≠ []) : style.line k cs = style.lead k ++ cs := by
  cases cs with
  | nil => exact absurd rfl h
  | cons c cs => rfl

@[simp]
theorem line_eq_nil_iff : style.line k cs = [] ↔ cs = [] := by
  cases cs <;> simp [line]

@[simp]
theorem line_zero (style : Indent) (cs : List Char) : style.line 0 cs = cs := by
  cases cs <;> rfl

/-- Levels add up, on a line that is empty too. -/
theorem line_line (style : Indent) (a b : Nat) (cs : List Char) :
    style.line a (style.line b cs) = style.line (a + b) cs := by
  by_cases h : cs = []
  · rw [h]
    rfl
  · have hb : style.line b cs ≠ [] := by simpa using h
    rw [line_of_ne_nil hb, line_of_ne_nil h, line_of_ne_nil h, lead_add, List.append_assoc]

theorem newline_not_mem_line (h : '\n' ∉ cs) : '\n' ∉ style.line k cs := by
  by_cases hcs : cs = []
  · rw [hcs]
    exact List.not_mem_nil
  · rw [line_of_ne_nil hcs, List.mem_append, not_or]
    exact ⟨newline_not_mem_lead style k, h⟩

theorem getLast?_line : (style.line k cs).getLast? = cs.getLast? := by
  by_cases hcs : cs = []
  · rw [hcs]
    rfl
  · rw [line_of_ne_nil hcs, List.getLast?_append_of_ne_nil _ hcs]

/-- The line without the lead, if it has one. An empty line has none to lose. -/
def unline? (style : Indent) (k : Nat) : List Char → Option (List Char)
  | [] => some []
  | cs => dropStem? (style.lead k) cs

/-- A line is got back from its indented form. -/
theorem unline?_line (style : Indent) (k : Nat) (cs : List Char) :
    style.unline? k (style.line k cs) = some cs := by
  by_cases hcs : cs = []
  · rw [hcs]
    rfl
  · have hdrop : dropStem? (style.lead k) (style.line k cs) = some cs := by
      rw [dropStem?_eq_some_iff, line_of_ne_nil hcs]
    have hline : style.line k cs ≠ [] := by simpa using hcs
    cases h : style.line k cs with
    | nil => exact absurd h hline
    | cons c ds => rwa [h] at hdrop

/-! Blocks. -/

/-- A block is indented line by line. -/
theorem split_blockChars (style : Indent) (k : Nat) (cs : List Char) :
    split '\n' (style.blockChars k cs) = (split '\n' cs).map (style.line k) := by
  apply split_join
  · simpa using split_ne_nil '\n' cs
  · intro piece hpiece
    obtain ⟨line, hline, rfl⟩ := List.mem_map.mp hpiece
    exact newline_not_mem_line (sep_not_mem_of_mem_split hline)

theorem blockChars_blockChars (style : Indent) (a b : Nat) (cs : List Char) :
    style.blockChars a (style.blockChars b cs) = style.blockChars (a + b) cs := by
  rw [blockChars, split_blockChars, List.map_map, blockChars]
  exact congrArg (join '\n') (List.map_congr_left fun line _ => line_line style a b line)

theorem blockChars_zero (style : Indent) (cs : List Char) : style.blockChars 0 cs = cs := by
  have hline : style.line 0 = id := funext (line_zero style)
  rw [blockChars, hline, List.map_id, join_split]

/-- To indent a text made of blocks is to indent each of them. -/
theorem blockChars_join (style : Indent) (k : Nat) (h : blocks ≠ []) :
    style.blockChars k (join '\n' blocks) = join '\n' (blocks.map (style.blockChars k)) := by
  have hblocks : blocks.map (style.blockChars k) ≠ [] := by simpa using h
  have hlines : (blocks.map (style.blockChars k)).flatMap (split '\n') =
      (blocks.flatMap (split '\n')).map (style.line k) := by
    rw [List.flatMap_map, List.map_flatMap]
    exact congrArg blocks.flatMap (funext (split_blockChars style k))
  rw [blockChars, split_join_blocks h, ← hlines, ← split_join_blocks hblocks, join_split]

/-- The text without the lead of its lines, if all lines that are not empty have it. -/
def unblock? (style : Indent) (k : Nat) (text : String) : Option String :=
  ((linesOf text).mapM (style.unline? k)).map fun lines => .ofList (join '\n' lines)

@[simp]
theorem linesOf_block (style : Indent) (k : Nat) (text : String) :
    linesOf (style.block k text) = (linesOf text).map (style.line k) := by
  rw [linesOf, block, String.toList_ofList, split_blockChars]
  rfl

theorem block_block (style : Indent) (a b : Nat) (text : String) :
    style.block a (style.block b text) = style.block (a + b) text := by
  rw [block, block, String.toList_ofList, blockChars_blockChars]
  rfl

theorem block_zero (style : Indent) (text : String) : style.block 0 text = text := by
  rw [block, blockChars_zero, String.ofList_toList]

theorem unblock?_block (style : Indent) (k : Nat) (text : String) :
    style.unblock? k (style.block k text) = some text := by
  have hlines :
      ((linesOf text).map (style.line k)).mapM (style.unline? k) = some (linesOf text) := by
    induction linesOf text with
    | nil => rfl
    | cons line lines ih => rw [List.map_cons, List.mapM_cons, unline?_line, ih]; rfl
  rw [unblock?, linesOf_block, hlines, Option.map_some, linesOf, join_split, String.ofList_toList]

/-- What becomes of a line: it is empty, and ends in white space, just if it was and did before. -/
structure LineKept (line indented : List Char) : Prop where
  empty_iff : indented = [] ↔ line = []
  endsBlank_iff : EndsBlank indented ↔ EndsBlank line

theorem forall₂_lineKept (style : Indent) (k : Nat) (text : String) :
    List.Forall₂ LineKept (linesOf text) (linesOf (style.block k text)) := by
  rw [linesOf_block, List.forall₂_map_right_iff, List.forall₂_same]
  intro line _
  exact ⟨line_eq_nil_iff, by rw [EndsBlank, getLast?_line, EndsBlank]⟩

end Indent

/-! Listings. -/

namespace Listing

/-- What is done to a listing. -/
inductive Step
  | append (level : Nat) (text : String)
  | blank

def Step.block (style : Indent) : Step → List Char
  | append level text => style.blockChars level text.toList
  | blank => []

/-- The step with its text `k` levels deeper. -/
def Step.deepen (k : Nat) : Step → Step
  | append level text => append (level + k) text
  | blank => blank

def after (l : Listing) : Step → Listing
  | .append level text => l.append level text
  | .blank => l.blank

/-- The listing that the steps make. -/
def ofSteps (style : Indent) (steps : List Step) : Listing := steps.foldl after (empty style)

variable {l : Listing} {steps later : List Step}

theorem after_eq (l : Listing) (step : Step) :
    l.after step = ⟨l.style, l.blocks ++ [step.block l.style]⟩ := by
  cases step <;> rfl

theorem foldl_after (l : Listing) (steps : List Step) :
    steps.foldl after l = ⟨l.style, l.blocks ++ steps.map (Step.block l.style)⟩ := by
  induction steps generalizing l with
  | nil => simp
  | cons step steps ih => rw [List.foldl_cons, ih, after_eq]; simp

/-- A listing is made of its steps, each indented on its own. -/
theorem ofSteps_eq (style : Indent) (steps : List Step) :
    ofSteps style steps = ⟨style, steps.map (Step.block style)⟩ := foldl_after (empty style) steps

/-- Indenting a step is the same as taking it deeper. -/
theorem block_deepen (style : Indent) (k : Nat) (step : Step) :
    (step.deepen k).block style = style.blockChars k (step.block style) := by
  cases step with
  | append level text =>
    rw [Step.block, Indent.blockChars_blockChars, Nat.add_comm]
    rfl
  | blank => rfl

/-- A listing indented as a whole is the listing of the steps that are as much deeper. -/
theorem block_text_ofSteps (h : steps ≠ []) :
    style.block k (ofSteps style steps).text = (ofSteps style (steps.map (.deepen k))).text := by
  have hdeep : (steps.map (.deepen k)).map (Step.block style) =
      (steps.map (Step.block style)).map (style.blockChars k) := by
    rw [List.map_map, List.map_map]
    exact List.map_congr_left fun step _ => block_deepen style k step
  rw [ofSteps_eq, ofSteps_eq, text, text, hdeep, Indent.block, String.toList_ofList,
    Indent.blockChars_join style k (by simpa using h)]

theorem text_ofSteps_append (h : steps ≠ []) (h' : later ≠ []) :
    (ofSteps style (steps ++ later)).text =
      (ofSteps style steps).text ++ "\n" ++ (ofSteps style later).text := by
  rw [ofSteps_eq, ofSteps_eq, ofSteps_eq, text, text, text, List.map_append,
    join_append (by simpa using h) (by simpa using h'), ← String.toList_inj]
  simp

end Listing

/-- Levels of indentation add up, and level zero changes nothing. An indented text has the lines of
the text, empty where they were and with the ends that they had, and gives the text back without
the lead. A listing that is not empty is indented by indenting its steps, and two of them one after
the other make their two texts with one newline between. -/
theorem indentation_composes :
    (∀ (style : Indent) (text : String),
      style.block 0 text = text ∧
      ∀ a, (∀ b, style.block a (style.block b text) = style.block (a + b) text) ∧
        List.Forall₂ Indent.LineKept (linesOf text) (linesOf (style.block a text)) ∧
        style.unblock? a (style.block a text) = some text) ∧
    ∀ (style : Indent) (steps : List Listing.Step), steps ≠ [] →
      (∀ k, style.block k (Listing.ofSteps style steps).text =
        (Listing.ofSteps style (steps.map (.deepen k))).text) ∧
      ∀ later, later ≠ [] → (Listing.ofSteps style (steps ++ later)).text =
        (Listing.ofSteps style steps).text ++ "\n" ++ (Listing.ofSteps style later).text := by
  refine ⟨fun style text => ⟨style.block_zero text, fun a => ⟨fun b => style.block_block a b text,
    style.forall₂_lineKept a text, style.unblock?_block a text⟩⟩, fun style steps h => ⟨?_, ?_⟩⟩
  · exact fun k => Listing.block_text_ofSteps h
  · exact fun later h' => Listing.text_ofSteps_append h h'

namespace Listing

/-- A block that ends in a newline, an empty line, and a block with an empty line inside. -/
def loopSteps : List Step :=
  [.append 0 "while x do\n", .blank, .append 1 "a()\n\nb() "]

theorem loop_indentation_composes :
    loopSteps ≠ [] ∧ [Step.append 0 "end"] ≠ [] ∧
      Indent.script.block 2 (ofSteps .script loopSteps).text =
        (ofSteps .script (loopSteps.map (.deepen 2))).text ∧
      (ofSteps .script (loopSteps ++ [.append 0 "end"])).text =
        (ofSteps .script loopSteps).text ++ "\n" ++ (ofSteps .script [.append 0 "end"]).text := by
  have hsteps : loopSteps ≠ [] := List.cons_ne_nil _ _
  have hend : [Step.append 0 "end"] ≠ [] := List.cons_ne_nil _ _
  obtain ⟨hdeepen, happend⟩ := indentation_composes.2 .script loopSteps hsteps
  exact ⟨hsteps, hend, hdeepen 2, happend _ hend⟩

end Listing

end BindingTables

import BindingTables.Text.Split

/-! Indentation of blocks of text, and text gathered block by block. -/

namespace BindingTables

open BindingTables.Text

inductive Indent
  | spaces (width : Nat)
  | tab
deriving DecidableEq

namespace Indent

/-- The style of generated source in the host language, and the one used when none is named. -/
def host : Indent := .spaces 4

/-- The style of generated scripts. -/
def script : Indent := .tab

/-- Widths other than two, four and eight fall back to four. -/
def unit : Indent → List Char
  | .tab => ['\t']
  | .spaces 2 => List.replicate 2 ' '
  | .spaces 8 => List.replicate 8 ' '
  | .spaces _ => List.replicate 4 ' '

def lead (style : Indent) (level : Nat) : List Char :=
  (List.replicate level style.unit).flatten

/-- Puts the lead before a line unless the line is empty. -/
def line (style : Indent) (level : Nat) : List Char → List Char
  | [] => []
  | cs => style.lead level ++ cs

def blockChars (style : Indent) (level : Nat) (cs : List Char) : List Char :=
  join '\n' ((split '\n' cs).map (style.line level))

def block (style : Indent) (level : Nat) (text : String) : String :=
  .ofList (style.blockChars level text.toList)

end Indent

/-- Blocks of text under one style of indentation, in order. -/
structure Listing where
  style : Indent
  blocks : List (List Char)

namespace Listing

def empty (style : Indent) : Listing := ⟨style, []⟩

def isEmpty (l : Listing) : Bool := l.blocks.isEmpty

def append (l : Listing) (level : Nat) (text : String) : Listing :=
  { l with blocks := l.blocks ++ [l.style.blockChars level text.toList] }

def blank (l : Listing) : Listing := { l with blocks := l.blocks ++ [[]] }

def text (l : Listing) : String := .ofList (join '\n' l.blocks)

end Listing

end BindingTables

import BindingTables.Text.Case
import BindingTables.Text.Split

/-! Engine names respelled as identifiers of the scripting language. -/

namespace BindingTables.Identifier

open BindingTables.Text

def capitalise : List Char → List Char
  | [] => []
  | c :: cs => upper c ++ cs

def words (cs : List Char) : List (List Char) := (split '_' cs).filter (!·.isEmpty)

/-- A `d` right behind `digit` is written as a capital: two and three dimensions are `2D`, `3D`. -/
def raiseDimension (digit : Char) : List Char → List Char
  | [] => []
  | [c] => [c]
  | c :: e :: cs =>
    if c = digit ∧ e = 'd' then c :: 'D' :: raiseDimension digit cs
    else c :: raiseDimension digit (e :: cs)

/-- The underscore that marks a private name stays, however many there were. -/
def privateMark : List Char → List Char
  | '_' :: _ => ['_']
  | _ => []

def pascalChars (cs : List Char) : List Char :=
  raiseDimension '3' (raiseDimension '2' (privateMark cs ++ (words cs).flatMap capitalise))

/-- Capitalises each word and drops the underscores between them. -/
def pascal (s : String) : String := .ofList (pascalChars s.toList)

def camelChars? (cs : List Char) : Option (List Char) :=
  let p := pascalChars cs
  match p.dropWhile (!hasCase ·) with
  | [] => none
  | c :: rest => some (lowerText (p.takeWhile (!hasCase ·) ++ [c]) ++ rest)

/-- The capitalised form with its first letter in lower case; a text without letters has none. -/
def camel? (s : String) : Option String := (camelChars? s.toList).map .ofList

/-- An enum's name without the dots that scope it. -/
def canonicalEnum (s : String) : String := .ofList (s.toList.filter (· != '.'))

end BindingTables.Identifier

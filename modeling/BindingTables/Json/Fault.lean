import BindingTables.Mismatch

/-! What can be wrong with a JSON text, and where. -/

namespace BindingTables.Json

inductive Problem
  | endOfValue
  | endOfObject
  | endOfList
  | endOfText
  | expectedValue
  | expectedWord
  | expectedColon
  | expectedNextMember
  | expectedNextItem
  | keyNotText
  | trailingComma
  | trailingCharacters
  | invalidNumber
  | numberOutOfRange
  | invalidEscape
  | controlCharacter
  | loneSurrogate
  | unpairedSurrogate
  | wrongType (found : Found) (expected : String)
  | wrongRange (n : Int) (expected : String)
  | missingField (key : String)
  | duplicateField (key : String)
  | tooShort (length : Nat) (record : String) (size : Nat)
  /-- A text that has the right type and still names nothing. -/
  | rejected (reason : String)

namespace Problem

def message : Problem → String
  | endOfValue => "EOF while parsing a value"
  | endOfObject => "EOF while parsing an object"
  | endOfList => "EOF while parsing a list"
  | endOfText => "EOF while parsing a string"
  | expectedValue => "expected value"
  | expectedWord => "expected ident"
  | expectedColon => "expected `:`"
  | expectedNextMember => "expected `,` or `\x7d`"
  | expectedNextItem => "expected `,` or `]`"
  | keyNotText => "key must be a string"
  | trailingComma => "trailing comma"
  | trailingCharacters => "trailing characters"
  | invalidNumber => "invalid number"
  | numberOutOfRange => "number out of range"
  | invalidEscape => "invalid escape"
  | controlCharacter => "control character (\\u0000-\\u001F) found while parsing a string"
  | loneSurrogate => "lone leading surrogate in hex escape"
  | unpairedSurrogate => "unexpected end of hex escape"
  | wrongType found expected => found.insteadOf expected
  | wrongRange n expected => s!"invalid value: integer `{n}`, expected {expected}"
  | missingField key => s!"missing field `{key}`"
  | duplicateField key => s!"duplicate field `{key}`"
  | tooShort length record 1 =>
    s!"invalid length {length}, expected struct {record} with 1 element"
  | tooShort length record size =>
    s!"invalid length {length}, expected struct {record} with {size} elements"
  | rejected reason => reason

inductive Category
  | syntactic
  | data
  | ending
deriving DecidableEq

def category : Problem → Category
  | endOfValue | endOfObject | endOfList | endOfText => .ending
  | wrongType .. | wrongRange .. | missingField _ | duplicateField _ | tooShort .. | rejected _ =>
    .data
  | _ => .syntactic

end Problem

/-- A problem and the byte offset that it is reported at. -/
structure Fault where
  problem : Problem
  offset : Nat

/-- A line, counted from one, and the bytes before the offset on that line. -/
structure Place where
  line : Nat
  column : Nat
deriving DecidableEq

/-- The place `remaining` bytes further on, from `here`. An offset inside a character is on the
line of that character. -/
def Place.advance (here : Place) : (cs : List Char) → (remaining : Nat) → Place
  | [], remaining => { here with column := here.column + remaining }
  | c :: cs, remaining =>
    if remaining < c.utf8Size then { here with column := here.column + remaining }
    else if c = '\n' then Place.advance ⟨here.line + 1, 0⟩ cs (remaining - 1)
    else Place.advance { here with column := here.column + c.utf8Size } cs (remaining - c.utf8Size)

def Place.ofOffset (cs : List Char) (offset : Nat) : Place := Place.advance ⟨1, 0⟩ cs offset

/-- A problem as it is reported: a value refused for its meaning has no place. -/
structure ReadError where
  problem : Problem
  place : Option Place

namespace ReadError

def ofFault (source : List Char) (fault : Fault) : ReadError :=
  ⟨fault.problem, some (.ofOffset source fault.offset)⟩

def line (e : ReadError) : Nat := e.place.elim 0 (·.line)

def column (e : ReadError) : Nat := e.place.elim 0 (·.column)

def message (e : ReadError) : String :=
  match e.place with
  | none => e.problem.message
  | some place => s!"{e.problem.message} at line {place.line} column {place.column}"

end ReadError

end BindingTables.Json

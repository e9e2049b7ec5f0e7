import BindingTables.Json.Number
import BindingTables.Text.Split

/-! String literals and words as JSON writes them. -/

namespace BindingTables.Json

open BindingTables.Text

def hexValue? (c : Char) : Option Nat :=
  if isDigit c then some (digitValue c)
  else if 'a' ≤ c ∧ c ≤ 'f' then some (c.toNat - 'a'.toNat + 10)
  else if 'A' ≤ c ∧ c ≤ 'F' then some (c.toNat - 'A'.toNat + 10)
  else none

def quad? (a b c d : Char) : Option Nat :=
  match hexValue? a, hexValue? b, hexValue? c, hexValue? d with
  | some a, some b, some c, some d => some (((a * 16 + b) * 16 + c) * 16 + d)
  | _, _, _, _ => none

def isHighSurrogate (n : Nat) : Bool := 0xD800 ≤ n && n ≤ 0xDBFF

def isLowSurrogate (n : Nat) : Bool := 0xDC00 ≤ n && n ≤ 0xDFFF

def pairedChar (high low : Nat) : Char :=
  Char.ofNat (0x10000 + (high - 0xD800) * 0x400 + (low - 0xDC00))

/-- The character that a one-letter escape stands for. -/
def shorthand? : Char → Option Char
  | '"' => some '"'
  | '\\' => some '\\'
  | '/' => some '/'
  | 'b' => some '\x08'
  | 'f' => some '\x0c'
  | 'n' => some '\n'
  | 'r' => some '\r'
  | 't' => some '\t'
  | _ => none

/-- Four bytes are taken before they are looked at. -/
def quadFault (cs : List Char) (i : Nat) : Fault :=
  if 4 ≤ byteSize cs then ⟨.invalidEscape, i + 4⟩ else ⟨.endOfText, i + byteSize cs⟩

/-- Why a high surrogate is not followed by a second escape. -/
def unpairedFault (cs : List Char) (i : Nat) : Fault :=
  match cs with
  | [] => ⟨.endOfText, i⟩
  | ['\\'] => ⟨.endOfText, i + 1⟩
  | '\\' :: 'u' :: r => quadFault r (i + 2)
  | '\\' :: _ => ⟨.unpairedSurrogate, i + 2⟩
  | _ => ⟨.unpairedSurrogate, i + 1⟩

/-- Why a backslash starts no escape. -/
def escapeFault (cs : List Char) (i : Nat) : Fault :=
  match cs with
  | [] => ⟨.endOfText, i⟩
  | 'u' :: r => quadFault r (i + 1)
  | _ => ⟨.invalidEscape, i + 1⟩

/-- Reads a literal whose text is used, from behind its opening quote. -/
def keepText : List Char → Nat → Except Fault (List Char × List Char × Nat)
  | [], i => .error ⟨.endOfText, i⟩
  | '"' :: cs, i => .ok ([], cs, i + 1)
  | '\\' :: 'u' :: a :: b :: c :: d :: cs, i =>
    match quad? a b c d with
    | none => .error (quadFault (a :: b :: c :: d :: cs) (i + 2))
    | some n =>
      if isLowSurrogate n then .error ⟨.loneSurrogate, i + 6⟩
      else if isHighSurrogate n then
        match cs with
        | '\\' :: 'u' :: a :: b :: c :: d :: cs =>
          match quad? a b c d with
          | none => .error (quadFault (a :: b :: c :: d :: cs) (i + 8))
          | some m =>
            if isLowSurrogate m then
              (keepText cs (i + 12)).map fun r => (pairedChar n m :: r.1, r.2)
            else .error ⟨.loneSurrogate, i + 12⟩
        | cs => .error (unpairedFault cs (i + 6))
      else (keepText cs (i + 6)).map fun r => (Char.ofNat n :: r.1, r.2)
  | '\\' :: c :: cs, i =>
    match shorthand? c with
    | some c => (keepText cs (i + 2)).map fun r => (c :: r.1, r.2)
    | none => .error (escapeFault (c :: cs) (i + 1))
  | c :: cs, i =>
    if c = '\\' then .error (escapeFault cs (i + 1))
    else if c < ' ' then .error ⟨.controlCharacter, i + 1⟩
    else (keepText cs (i + c.utf8Size)).map fun r => (c :: r.1, r.2)

/-- Reads a literal whose text is not used: surrogates may stand alone. -/
def skipText : List Char → Nat → Except Fault (List Char × Nat)
  | [], i => .error ⟨.endOfText, i⟩
  | '"' :: cs, i => .ok (cs, i + 1)
  | '\\' :: 'u' :: a :: b :: c :: d :: cs, i =>
    match quad? a b c d with
    | none => .error (quadFault (a :: b :: c :: d :: cs) (i + 2))
    | some _ => skipText cs (i + 6)
  | '\\' :: c :: cs, i =>
    match shorthand? c with
    | some _ => skipText cs (i + 2)
    | none => .error (escapeFault (c :: cs) (i + 1))
  | c :: cs, i =>
    if c = '\\' then .error (escapeFault cs (i + 1))
    else if c < ' ' then .error ⟨.controlCharacter, i⟩
    else skipText cs (i + c.utf8Size)

/-- Reads the letters of a word, such as those behind the `n` of `null`. -/
def readWord : (word cs : List Char) → Nat → Except Fault (List Char × Nat)
  | [], cs, i => .ok (cs, i)
  | _ :: _, [], i => .error ⟨.endOfValue, i⟩
  | w :: word, c :: cs, i =>
    if w = c then readWord word cs (i + 1) else .error ⟨.expectedWord, i + 1⟩

def isBlank (c : Char) : Bool := c = ' ' || c = '\n' || c = '\t' || c = '\r'

def skipBlanks : List Char → Nat → List Char × Nat
  | [], i => ([], i)
  | c :: cs, i => if isBlank c then skipBlanks cs (i + 1) else (c :: cs, i)

end BindingTables.Json

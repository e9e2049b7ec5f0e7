import BindingTables.Json.Fault

/-! Numbers as JSON writes them: one grammar, and the value that is kept of it. -/

namespace BindingTables.Json

/-- Whole numbers of 64 bits are exact; all others are doubles. -/
inductive Number
  | whole (n : Int)
  | real (x : Float)

def Number.found : Number → Found
  | whole n => .whole n
  | real x => .real (Decimal.compact x)

def isDigit (c : Char) : Bool := '0' ≤ c && c ≤ '9'

def digitValue (c : Char) : Nat := c.toNat - '0'.toNat

/-- The parts of a number as written. -/
structure Numeral where
  negative : Bool
  whole : List Char
  fraction : List Char
  /-- The sign and the digits of the exponent. -/
  exponent : Option (Bool × List Char)
  /-- Whether a point or an exponent was written. -/
  decimal : Bool

namespace Numeral

variable (atEnd : Problem)

/-- The digits of an exponent, after its letter. -/
def exponentPart (cs : List Char) (i : Nat) : Except Fault ((Bool × List Char) × List Char × Nat) :=
  let (negative, cs, i) := match cs with
    | '+' :: r => (false, r, i + 1)
    | '-' :: r => (true, r, i + 1)
    | r => (false, r, i)
  match cs with
  | [] => .error ⟨atEnd, i⟩
  | c :: r =>
    if isDigit c then
      let digits := (c :: r).takeWhile isDigit
      .ok ((negative, digits), (c :: r).dropWhile isDigit, i + digits.length)
    else .error ⟨.invalidNumber, i + 1⟩

/-- What follows the whole digits. -/
def afterWhole (negative : Bool) (whole : List Char) (cs : List Char) (i : Nat) :
    Except Fault (Numeral × List Char × Nat) :=
  match cs with
  | '.' :: r =>
    let fraction := r.takeWhile isDigit
    let rest := r.dropWhile isDigit
    let j := i + 1 + fraction.length
    if fraction.isEmpty then
      match rest with
      | [] => .error ⟨atEnd, j⟩
      | _ :: _ => .error ⟨.invalidNumber, j + 1⟩
    else
      match rest with
      | c :: tail =>
        if c = 'e' ∨ c = 'E' then
          match exponentPart atEnd tail (j + 1) with
          | .error f => .error f
          | .ok (e, rest, k) => .ok (⟨negative, whole, fraction, some e, true⟩, rest, k)
        else .ok (⟨negative, whole, fraction, none, true⟩, rest, j)
      | [] => .ok (⟨negative, whole, fraction, none, true⟩, [], j)
  | c :: r =>
    if c = 'e' ∨ c = 'E' then
      match exponentPart atEnd r (i + 1) with
      | .error f => .error f
      | .ok (e, rest, k) => .ok (⟨negative, whole, [], some e, true⟩, rest, k)
    else .ok (⟨negative, whole, [], none, false⟩, c :: r, i)
  | [] => .ok (⟨negative, whole, [], none, false⟩, [], i)

/-- A number without its sign. -/
def unsigned (negative : Bool) (cs : List Char) (i : Nat) :
    Except Fault (Numeral × List Char × Nat) :=
  match cs with
  | [] => .error ⟨atEnd, i⟩
  | c :: r =>
    if c = '0' then
      match r with
      | d :: _ =>
        if isDigit d then .error ⟨.invalidNumber, i + 2⟩
        else afterWhole atEnd negative ['0'] r (i + 1)
      | [] => afterWhole atEnd negative ['0'] [] (i + 1)
    else if isDigit c then
      let digits := (c :: r).takeWhile isDigit
      afterWhole atEnd negative digits ((c :: r).dropWhile isDigit) (i + digits.length)
    else .error ⟨.invalidNumber, i + 1⟩

/-- Reads a number at `cs`; `atEnd` is the problem when the text ends too early. -/
def read (cs : List Char) (i : Nat) : Except Fault (Numeral × List Char × Nat) :=
  match cs with
  | '-' :: r => unsigned atEnd true r (i + 1)
  | r => unsigned atEnd false r i

/-- Sixty-four bits of digits, and how many further digits were left out. -/
def gather : (significand : Nat) → List Char → Nat × Nat
  | n, [] => (n, 0)
  | n, c :: cs =>
    let next := 10 * n + digitValue c
    if next < UInt64.size then gather next cs else (n, (c :: cs).length)

/-- The exponent's value, or how many digits it took to pass 31 bits. -/
def exponentValue : (value taken : Nat) → List Char → Except Nat Nat
  | n, _, [] => .ok n
  | n, taken, c :: cs =>
    let next := 10 * n + digitValue c
    if next < 0x80000000 then exponentValue next (taken + 1) cs else .error (taken + 1)

/-- `x * 10 ^ exponent`, if that is not too large. -/
def scale (x : Float) (exponent : Int) : Option Float :=
  if exponent > 308 then (if x == 0.0 then some x else none)
  else if 0 ≤ exponent then
    let y := x * Float.ofScientific 1 false exponent.toNat
    if y.isInf then none else some y
  else if -308 ≤ exponent then some (x / Float.ofScientific 1 false exponent.natAbs)
  else if x == 0.0 then some x
  else scale (x / 1e308) (exponent + 308)
termination_by exponent.natAbs
decreasing_by omega

def applySign (negative : Bool) (x : Float) : Float := if negative then -x else x

/-- The value of a number that ends before offset `stop`. -/
def value (n : Numeral) (stop : Nat) : Except Fault Number :=
  let (significand, dropped) := gather 0 n.whole
  if !n.decimal ∧ dropped = 0
      ∧ !(n.negative ∧ (significand = 0 ∨ significand > 0x8000000000000000)) then
    .ok (.whole (if n.negative then -significand else significand))
  else
    let (significand, left) := gather significand n.fraction
    let start : Int := dropped - (n.fraction.length - left : Int)
    let real (exponent : Int) : Except Fault Number :=
      match scale significand.toUInt64.toFloat exponent with
      | some x => .ok (.real (applySign n.negative x))
      | none => .error ⟨.numberOutOfRange, stop⟩
    match n.exponent with
    | none => real start
    | some (negative, digits) =>
      match exponentValue 0 0 digits with
      | .ok e => real (if negative then start - e else start + e)
      | .error taken =>
        if significand ≠ 0 ∧ !negative then
          .error ⟨.numberOutOfRange, stop - digits.length + taken⟩
        else .ok (.real (applySign n.negative 0.0))

end Numeral

/-- Reads a number whose value is used. -/
def keepNumber (cs : List Char) (i : Nat) : Except Fault (Number × List Char × Nat) :=
  match Numeral.read .endOfValue cs i with
  | .error f => .error f
  | .ok (n, rest, stop) =>
    match n.value stop with
    | .error f => .error f
    | .ok v => .ok (v, rest, stop)

/-- Reads a number whose value is not used. -/
def skipNumber (cs : List Char) (i : Nat) : Except Fault (List Char × Nat) :=
  match Numeral.read .invalidNumber cs i with
  | .error f => .error f
  | .ok (_, rest, stop) => .ok (rest, stop)

end BindingTables.Json

/-! The shortest decimal that reads back as a given double. -/

namespace BindingTables.Decimal

/-- A finite positive double as `mantissa * 2 ^ (exponent - 1074)`. -/
structure Binary where
  mantissa : Nat
  exponent : Nat

/-- The digits `digits`, read as a whole number, times `10 ^ power`. -/
structure Scaled where
  digits : Nat
  power : Int
deriving DecidableEq

namespace Binary

/-- The least mantissa of a normal double, two to the power of 52. -/
def hidden : Nat := 0x10000000000000

/-- The double with the bits `n`, its sign dropped. -/
def ofBits (n : Nat) : Binary :=
  let fraction := n % hidden
  match n / hidden % 0x800 with
  | 0 => ⟨fraction, 0⟩
  | e + 1 => ⟨fraction + hidden, e⟩

/-- The value and the two midpoints towards its neighbours, in quarters of its last place. -/
def lowQuarters (b : Binary) : Nat :=
  if b.mantissa = hidden ∧ b.exponent ≠ 0 then 4 * b.mantissa - 1 else 4 * b.mantissa - 2

def highQuarters (b : Binary) : Nat := 4 * b.mantissa + 2

/-- `quarters` of the last place times `10 ^ -power`, as a fraction of natural numbers. -/
def onGrid (b : Binary) (quarters : Nat) (power : Int) : Nat × Nat :=
  (quarters * Nat.pow 2 b.exponent * Nat.pow 10 (-power).toNat,
    4 * Nat.pow 2 1074 * Nat.pow 10 power.toNat)

/-- Whether the whole number `n` on the grid of `10 ^ power` rounds to this double. -/
def reads (b : Binary) (power : Int) (n : Nat) : Bool :=
  let low := b.onGrid b.lowQuarters power
  let high := b.onGrid b.highQuarters power
  if b.mantissa % 2 = 0 then low.1 ≤ n * low.2 && n * high.2 ≤ high.1
  else low.1 < n * low.2 && n * high.2 < high.1

/-- The nearest of the two grid neighbours that read back, if one does. -/
def onGrid? (b : Binary) (power : Int) : Option Nat :=
  let v := b.onGrid (4 * b.mantissa) power
  let below := v.1 / v.2
  match b.reads power below, b.reads power (below + 1) with
  | true, true =>
    let twice := 2 * (v.1 % v.2)
    if twice < v.2 ∨ twice = v.2 ∧ below % 2 = 0 then some below else some (below + 1)
  | true, false => some below
  | false, true => some (below + 1)
  | false, false => none

/-- The power of ten at or below the value, found from `10 ^ 309` downwards. -/
def magnitude (b : Binary) : Int :=
  let v := b.onGrid (4 * b.mantissa) 0
  let fits (k : Int) : Bool := Nat.pow 10 k.toNat * v.2 ≤ v.1 * Nat.pow 10 (-k).toNat
  match ((List.range 634).map fun (i : Nat) => (309 - i : Int)).find? fits with
  | some k => k
  | none => -324

/-- The digits on the coarsest grid that has a number reading back. -/
def shortest (b : Binary) : Scaled :=
  let top := b.magnitude
  match (List.range 17).findSome? fun (i : Nat) =>
      (b.onGrid? (top - i)).map fun n => Scaled.mk n (top - i) with
  | some d => d
  | none => ⟨b.mantissa, 0⟩

end Binary

/-- Drops zeros at the end of the digits. -/
def Scaled.normalise (d : Scaled) : Scaled :=
  let digits := Nat.toDigits 10 d.digits
  let zeros := (digits.reverse.takeWhile (· = '0')).length
  if d.digits = 0 then ⟨0, 0⟩ else ⟨d.digits / Nat.pow 10 zeros, d.power + zeros⟩

/-- The number in place notation, whole numbers without a point. -/
def Scaled.positional (d : Scaled) : List Char :=
  let digits := Nat.toDigits 10 d.digits
  match d.power with
  | .ofNat zeros => if d.digits = 0 then ['0'] else digits ++ List.replicate zeros '0'
  | .negSucc n =>
    let places := n + 1
    let padded := List.replicate (places + 1 - digits.length) '0' ++ digits
    padded.take (padded.length - places) ++ '.' :: padded.drop (padded.length - places)

/-- The exponent of the first digit. -/
def Scaled.leadExponent (d : Scaled) : Int := d.power + (Nat.toDigits 10 d.digits).length - 1

/-- One digit before the point, the exponent with its sign. -/
def Scaled.scientific (d : Scaled) : List Char :=
  let mantissa := match Nat.toDigits 10 d.digits with
    | [] => []
    | [c] => [c]
    | c :: cs => c :: '.' :: cs
  let e := d.leadExponent
  mantissa ++ 'e' :: (if e < 0 then '-' else '+') :: Nat.toDigits 10 e.natAbs

def withPoint (cs : List Char) : List Char :=
  if cs.contains '.' then cs else cs ++ ['.', '0']

inductive Kind
  | finite (d : Scaled)
  | infinite
  | nan

def kind (x : Float) : Kind :=
  if x.isNaN then .nan
  else if x.isInf then .infinite
  else
    let b := Binary.ofBits x.toBits.toNat
    .finite (if b.mantissa = 0 then ⟨0, 0⟩ else b.shortest.normalise)

def signed (x : Float) (cs : List Char) : String :=
  .ofList (if 0x8000000000000000 ≤ x.toBits.toNat then '-' :: cs else cs)

/-- Place notation throughout, with a point. -/
def plain (x : Float) : String :=
  match kind x with
  | .nan => "NaN"
  | .infinite => signed x "inf".toList
  | .finite d => signed x (withPoint d.positional)

/-- Place notation with a point from `1e-5` up to below `1e16`, else with an exponent. -/
def compact (x : Float) : String :=
  match kind x with
  | .nan => "NaN"
  | .infinite => signed x "inf".toList
  | .finite d =>
    signed x (if d.digits = 0 ∨ -5 ≤ d.leadExponent ∧ d.leadExponent < 16
      then withPoint d.positional else d.scientific)

end BindingTables.Decimal

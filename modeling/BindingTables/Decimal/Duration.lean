/-! Lengths of time with two decimals. -/

namespace BindingTables.Decimal

/-- `num / den` rounded to a whole number, halves to the even one. -/
def roundHalfEven (num den : Nat) : Nat :=
  let q := num / den
  let r := num % den
  if 2 * r < den ∨ 2 * r = den ∧ q % 2 = 0 then q else q + 1

/-- The largest unit that leaves a whole part, and how many nanoseconds it has. -/
def durationUnit (nanoseconds : Nat) : Nat × String :=
  if 1000000000 ≤ nanoseconds then (1000000000, "s")
  else if 1000000 ≤ nanoseconds then (1000000, "ms")
  else if 1000 ≤ nanoseconds then (1000, "µs")
  else (1, "ns")

def twoDigits (n : Nat) : String := s!"{n / 10}{n % 10}"

/-- Rounding does not change the unit. -/
def duration (nanoseconds : Nat) : String :=
  let (size, name) := durationUnit nanoseconds
  let hundredths := roundHalfEven (100 * nanoseconds) size
  s!"{hundredths / 100}.{twoDigits (hundredths % 100)}{name}"

end BindingTables.Decimal

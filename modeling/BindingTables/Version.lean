import BindingTables.Text.Split

/-! Engine versions: two or three numbers and an optional status word. -/

namespace BindingTables

open BindingTables.Text

structure Version where
  major : UInt32
  minor : UInt32
  patch : UInt32
deriving DecidableEq

namespace Version

/-- A number below 2^32 in decimal digits, with or without a plus sign. -/
def digits? : List Char → Option Nat
  | [] => none
  | cs => cs.foldl (fun n c => n.bind fun n =>
      if '0' ≤ c ∧ c ≤ '9' then some (10 * n + (c.toNat - '0'.toNat)) else none) (some 0)

def unsigned : List Char → List Char
  | '+' :: cs => cs
  | cs => cs

def number? (cs : List Char) : Option UInt32 :=
  match digits? (unsigned cs) with
  | some n => if n < UInt32.size then some n.toUInt32 else none
  | none => none

/-- The numbers in front, and the segments from the first that is no number on. -/
def leading : List (List Char) → List UInt32 × List (List Char)
  | [] => ([], [])
  | segment :: rest =>
    match number? segment with
    | none => ([], segment :: rest)
    | some n => ((n :: (leading rest).1), (leading rest).2)

def ofSegments? (segments : List (List Char)) : Option Version :=
  if segments.any List.isEmpty then none
  else
    match leading segments with
    | ([x, y], status) => if status.length ≤ 1 then some ⟨x, y, 0⟩ else none
    | ([x, y, z], status) => if status.length ≤ 1 then some ⟨x, y, z⟩ else none
    | _ => none

def parse? (s : String) : Option Version := ofSegments? (split '.' s.toList)

def render (v : Version) : String :=
  s!"{v.major.toNat}.{v.minor.toNat}.{v.patch.toNat}"

def rejection (s : String) : String :=
  s!"invalid Godot version '{s}', expected 'X.Y[.Z][.status]'"

/-- Versions compare number by number. -/
def order (a b : Version) : Ordering :=
  ((compare a.major b.major).then (compare a.minor b.minor)).then (compare a.patch b.patch)

end Version

end BindingTables

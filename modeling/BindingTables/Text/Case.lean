import BindingTables.Text.CaseTable

/-! Upper and lower case of characters and texts, with the full mappings. -/

namespace BindingTables.Text

/-- The code point that a run gives for `n`, if `n` lies on it. -/
def CaseRun.map? (n : Nat) : CaseRun → Option Nat
  | (first, last, step, image) =>
    if first ≤ n ∧ n ≤ last ∧ (n - first) % step = 0 then some (image + (n - first)) else none

def inRanges (ranges : List (Nat × Nat)) (c : Char) : Bool :=
  ranges.any fun r => r.1 ≤ c.toNat && c.toNat ≤ r.2

def caseMap (runs : List CaseRun) (expansions : List (Nat × List Nat)) (c : Char) : List Char :=
  match runs.findSome? (CaseRun.map? c.toNat) with
  | some n => [Char.ofNat n]
  | none =>
    match expansions.lookup c.toNat with
    | some ns => ns.map Char.ofNat
    | none => [c]

def upper (c : Char) : List Char :=
  if c.toNat < 0x80 then [c.toUpper] else caseMap upperRuns upperExpansions c

def lower (c : Char) : List Char :=
  if c.toNat < 0x80 then [c.toLower] else caseMap lowerRuns lowerExpansions c

/-- Whether case distinguishes two forms of the character. -/
def hasCase (c : Char) : Bool := upper c != lower c

/-- Whether the nearest character that is not passed over is a cased letter. -/
def meetsCased (cs : List Char) : Bool :=
  match cs.dropWhile (inRanges caseIgnorableRanges) with
  | [] => false
  | c :: _ => inRanges casedRanges c

/-- Lower case of `cs` after the characters `before`, nearest first. A capital sigma that ends a
word takes its final form. -/
def lowerAfter (before : List Char) : List Char → List Char
  | [] => []
  | c :: cs =>
    let here :=
      if c = 'Σ' then (if meetsCased before && !meetsCased cs then ['ς'] else ['σ']) else lower c
    here ++ lowerAfter (c :: before) cs

def lowerText (cs : List Char) : List Char := lowerAfter [] cs

end BindingTables.Text

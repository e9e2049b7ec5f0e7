import BindingTables.Text.Split

/-! The stem that the value names of an enum share, and the names without it. -/

namespace BindingTables

open BindingTables.Text

namespace Stem

/-- How many values do not have byte `b` at place `i`. -/
def outliers (values : List (List UInt8)) (i : Nat) (b : UInt8) : Nat :=
  values.countP fun v => v[i]? != some b

/-- How many bytes of the candidate, from place `i` on, at most one value at a time departs
from. -/
def agreement (values : List (List UInt8)) (i : Nat) : List UInt8 → Nat
  | [] => 0
  | b :: candidate =>
    if outliers values i b ≤ 1 then agreement values (i + 1) candidate + 1 else 0

/-- The length up to and with the last underscore, which keeps the stem from ending in a word. -/
def wholeWords (candidate : List UInt8) : Nat :=
  (candidate.reverse.dropWhile (· != '_'.toNat.toUInt8)).length

/-- The characters that start within the first `n` bytes and end there. -/
def takeBytes (n : Nat) : List Char → List Char
  | [] => []
  | c :: cs => if c.utf8Size ≤ n then c :: takeBytes (n - c.utf8Size) cs else []

/-- The stem of the first value that the others share, but for one outlier at each place. -/
def ofValues : List String → String
  | [] => ""
  | first :: rest =>
    let candidate := bytes first
    let common := candidate.take (agreement ((first :: rest).map bytes) 0 candidate)
    .ofList (takeBytes (wholeWords common) first.toList)

/-- A name must not start with a digit. -/
def markDigit : List Char → List Char
  | [] => []
  | c :: cs => if '0' ≤ c ∧ c ≤ '9' then 'N' :: c :: cs else c :: cs

/-- The name without the stem; a name that has not got it, or has nothing else, stays whole. -/
def strip (stem value : String) : String :=
  let cs := match dropStem? stem.toList value.toList with
    | none | some [] => value.toList
    | some rest => rest
  .ofList (markDigit cs)

theorem markDigit_eq_nil_iff {cs : List Char} : markDigit cs = [] ↔ cs = [] := by
  cases cs with
  | nil => simp [markDigit]
  | cons c cs =>
    rw [markDigit]
    split <;> simp

theorem not_isDigit_head_markDigit {cs : List Char} {c : Char} (hc : c ∈ (markDigit cs).head?) :
    c.isDigit = false := by
  cases cs with
  | nil => simp [markDigit] at hc
  | cons d cs =>
    rw [markDigit] at hc
    split at hc
    · simp only [List.head?_cons, Option.mem_def, Option.some.injEq] at hc
      rw [← hc]
      rfl
    · rename_i hd
      simp only [List.head?_cons, Option.mem_def, Option.some.injEq] at hc
      subst hc
      simpa [Char.isDigit, Char.le_def] using hd

theorem not_isDigit_head_strip {stem value : String} {c : Char}
    (hc : c ∈ (strip stem value).toList.head?) : c.isDigit = false := by
  rw [strip, String.toList_ofList] at hc
  exact not_isDigit_head_markDigit hc

/-- No name is stripped to nothing. -/
theorem strip_eq_empty_iff {stem value : String} : strip stem value = "" ↔ value = "" := by
  rw [← String.toList_inj, strip, String.toList_ofList, String.toList_empty,
    markDigit_eq_nil_iff, ← String.toList_inj, String.toList_empty]
  split
  · rfl
  · rfl
  · rename_i rest hne h
    rw [dropStem?_eq_some_iff] at h
    have hr : rest ≠ [] := by
      intro he
      exact hne he
    simp [h, hr]

end Stem

end BindingTables

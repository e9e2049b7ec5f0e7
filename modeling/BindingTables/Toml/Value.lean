import BindingTables.InputError

/-! TOML values with the spans they are written in, and how tables grow. -/

namespace BindingTables.Toml

/-- How a table came about, which decides what may still be added to it. -/
inductive Origin
  /-- In braces; nothing can be added. -/
  | inline
  /-- By a header of its own, or as the document. -/
  | header
  /-- As a part of the path of a longer header. -/
  | implied
  /-- By a dotted key. -/
  | dotted
deriving DecidableEq

structure Key where
  name : String
  span : Span
deriving DecidableEq

inductive Value
  | text (span : Span) (s : String)
  | whole (span : Span) (n : Int)
  | real (span : Span) (shown : String)
  /-- A decimal too large for a double. -/
  | overflow (span : Span)
  | flag (span : Span) (b : Bool)
  | moment (span : Span)
  /-- `ofTables` tells a list of headed tables from a list in brackets. -/
  | list (span : Span) (ofTables : Bool) (items : List Value)
  | table (span : Span) (origin : Origin) (members : List (Key × Value))

abbrev Members := List (Key × Value)

namespace Members

def find? (name : String) : Members → Option Value
  | [] => none
  | (k, v) :: rest => if k.name = name then some v else find? name rest

def erase (name : String) (ms : Members) : Members := ms.filter (·.1.name ≠ name)

/-- Gives the member another value. -/
def replace (name : String) (v : Value) (ms : Members) : Members :=
  ms.map fun m => if m.1.name = name then (m.1, v) else m

/-- Changes the table at the end of `path`, and makes the tables that are missing on the way.
`dotted` tells a dotted key from a header. -/
def alter (dotted : Bool) (change : Origin → Members → Option Members) (origin : Origin) :
    List Key → Members → Option Members
  | [], ms => change origin ms
  | k :: path, ms =>
    let made := if dotted then Origin.dotted else .implied
    match find? k.name ms with
    | none =>
      (alter dotted change made path []).map fun inner => ms ++ [(k, .table k.span made inner)]
    | some (.table span origin inner) =>
      if origin = .inline ∨ dotted ∧ origin = .header then none
      else
        (alter dotted change origin path inner).map fun inner =>
          replace k.name (.table span origin inner) ms
    | some (.list span true items) =>
      match items.reverse with
      | .table last origin inner :: before =>
        (alter dotted change origin path inner).map fun inner =>
          replace k.name (.list span true (before.reverse ++ [.table last origin inner])) ms
      | _ => none
    | some _ => none

/-- Adds a new member; one of the same name must not be there. -/
def add? (k : Key) (v : Value) (ms : Members) : Option Members :=
  match find? k.name ms with
  | none => some (ms ++ [(k, v)])
  | some _ => none

/-- Adds what a line `path.k = v` says. A dotted key adds only to tables that dotted keys made. -/
def addDotted? (path : List Key) (k : Key) (v : Value) (ms : Members) : Option Members :=
  alter (!path.isEmpty)
    (fun origin inner => if !path.isEmpty && origin ≠ .dotted then none else add? k v inner)
    .header path ms

/-- The members that the table headed `[path.k]` starts with, and the others. A table made on
the way of a longer header can still get its own. -/
def openTable? (path : List Key) (k : Key) (ms : Members) : Option (Members × Members) := do
  let rest ← alter false (fun _ inner => some (erase k.name inner)) .header path ms
  let _ ← alter false (fun _ inner =>
    match find? k.name inner with
    | none | some (.table _ .implied _) => some inner
    | some _ => none) .header path ms
  let inner := (path.foldl (fun (found : Option Members) (step : Key) => found.bind fun ms =>
    match find? step.name ms with
    | some (.table _ _ inner) => some inner
    | some (.list _ true items) =>
      match items.getLast? with
      | some (.table _ _ inner) => some inner
      | _ => none
    | _ => none) (some ms)).bind (find? k.name)
  match inner with
  | some (.table _ _ kept) => return (kept, rest)
  | _ => return ([], rest)

/-- Puts the finished table headed `[path.k]` in its place. -/
def closeTable? (ms : Members) (path : List Key) (k : Key) (span : Span) (table : Members) :
    Option Members :=
  alter false (fun _ inner => add? k (.table span .header table) inner) .header path ms

/-- Adds the finished table headed `[[path.k]]` to its list. -/
def closeItem? (ms : Members) (path : List Key) (k : Key) (span : Span) (table : Members) :
    Option Members :=
  alter false (fun _ inner =>
    match find? k.name inner with
    | none => some (inner ++ [(k, .list span true [.table span .header table])])
    | some (.list first true items) =>
      some (replace k.name (.list first true (items ++ [.table span .header table])) inner)
    | some _ => none) .header path ms

end Members

end BindingTables.Toml

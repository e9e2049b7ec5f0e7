import BindingTables.Toml.Lexeme

/-! TOML documents: values, lines and headers. -/

namespace BindingTables.Toml

/-- Items, each followed by a comma or the closing mark. -/
def items {α : Type} (close : Char) (add : α → Parser α) : (fuel : Nat) → α → Parser α
  | 0, _ => failure
  | fuel + 1, a => do
    filler fuel
    if ← takes [close] then return a
    let a ← add a
    filler fuel
    if ← takes [close] then return a
    expect ','
    items close add fuel a

def value : (fuel : Nat) → Parser Value
  | 0 => failure
  | fuel + 1 => do
    match ← look with
    | some '"' | some '\'' =>
      let (s, span) ← spanned quotedText
      return .text span s
    | some '[' =>
      let (l, span) ← spanned do
        expect '['
        items ']' (fun (l : List Value) => do return (← value fuel) :: l) (fuel + 1) []
      return .list span false l.reverse
    | some '{' =>
      let (ms, span) ← spanned do
        expect '{'
        items '}' (fun (ms : Members) => do
          let (path, k) ← dottedKey fuel
          expect '='
          blanks
          let some ms := ms.addDotted? path k (← value fuel) | failure
          return ms) (fuel + 1) []
      return .table span .inline ms
    | _ => scalar

structure Header where
  path : List Key
  key : Key
  span : Span
  /-- Whether the header has two brackets. -/
  ofList : Bool

def header (fuel : Nat) : Parser Header := do
  let ((path, key, ofList), span) ← spanned do
    expect '['
    let ofList ← takes ['[']
    let (path, key) ← dottedKey fuel
    expect ']'
    if ofList then expect ']'
    return (path, key, ofList)
  return ⟨path, key, span, ofList⟩

/-- A document in the making: the finished tables, and the one that lines add to. -/
structure Draft where
  root : Members
  header : Option Header
  table : Members

/-- Puts the table that lines were added to in its place. -/
def Draft.close (d : Draft) : Option Members :=
  match d.header with
  | none => some d.table
  | some h =>
    if h.ofList then d.root.closeItem? h.path h.key h.span d.table
    else d.root.closeTable? h.path h.key h.span d.table

def Draft.openHeader (d : Draft) (h : Header) : Option Draft := do
  let root ← d.close
  if h.ofList then return ⟨root, some h, []⟩
  let (kept, root) ← root.openTable? h.path h.key
  return ⟨root, some h, kept⟩

def lines : (fuel : Nat) → Draft → Parser Draft
  | 0, d => pure d
  | fuel + 1, d => do
    blanks
    if ← atEnd then return d
    match ← look with
    | some '#' | some '\n' | some '\r' =>
      endOfLine
      lines fuel d
    | some '[' =>
      let h ← header fuel
      endOfLine
      let some d := d.openHeader h | failure
      lines fuel d
    | _ =>
      let (path, k) ← dottedKey fuel
      expect '='
      blanks
      let v ← value fuel
      endOfLine
      let some table := d.table.addDotted? path k v | failure
      lines fuel { d with table }

/-- The tables of a document, or nothing if it is not TOML. A byte order mark may come first. -/
def document? (source : String) : Option Members :=
  let cursor : Cursor := match source.toList with
    | '\uFEFF' :: cs => ⟨cs, 3⟩
    | cs => ⟨cs, 0⟩
  match (lines (cursor.rest.length + 1) ⟨[], none, []⟩).run cursor with
  | some (d, _) => d.close
  | none => none

end BindingTables.Toml

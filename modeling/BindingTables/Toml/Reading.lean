import BindingTables.Mismatch
import BindingTables.Toml.Value

/-! Typed reading of TOML values: keys are taken in alphabetical order, and the first fault is the
answer. -/

namespace BindingTables.Toml

/-- Why a value is refused, and the span that is to blame. -/
structure Refusal where
  cause : String
  span : Span
deriving DecidableEq

abbrev Reader (α : Type) := Value → Except Refusal α

namespace Value

def span : Value → Span
  | text span _ | whole span _ | real span _ | overflow span | flag span _ | moment span => span
  | list span _ _ | table span _ _ => span

def found? : Value → Option Found
  | text _ s => some (.text s)
  | whole _ n => some (if -0x8000000000000000 ≤ n ∧ n < UInt64.size then .whole n else .wide n)
  | real _ shown => some (.real shown)
  | overflow _ => none
  | flag _ b => some (.flag b)
  | moment _ | table .. => some .map
  | list .. => some .sequence

/-- The refusal of a value that stands where `expected` should. -/
def refuse (expected : String) (v : Value) : Refusal :=
  match v.found? with
  | some found => ⟨found.insteadOf expected, v.span⟩
  | none => ⟨"floating-point number overflowed", v.span⟩

def asText (expected : String) : Reader String
  | text _ s => .ok s
  | v => .error (v.refuse expected)

def asFlag : Reader Bool
  | flag _ b => .ok b
  | v => .error (v.refuse "a boolean")

def listOf {α : Type} (read : Reader α) : Reader (List α)
  | list _ _ items => items.mapM read
  | v => .error (v.refuse "a sequence")

end Value

/-- A field of a record `α`: what reading its value changes in the record. -/
structure RecordField (α : Type) where
  key : String
  read : Reader (α → α)

def RecordField.ofReader {α β : Type} (key : String) (read : Reader β) (store : β → α → α) :
    RecordField α :=
  ⟨key, fun v => (read v).map store⟩

/-- Reads the fields from a list in order of declaration; further items are not looked at. -/
def RecordField.readItems {α : Type} (record : α) :
    List (RecordField α) → List Value → Except Refusal α
  | f :: fields, v :: rest =>
    match f.read v with
    | .error e => .error e
    | .ok change => readItems (change record) fields rest
  | _, _ => .ok record

/-- A record as tables hold it; any field may be left out and keeps its default. -/
structure Schema (α : Type) where
  name : String
  fields : List (RecordField α)
  defaults : α

/-- Inserts a member before the first with a greater name. -/
def Members.insertByName (m : Key × Value) : Members → Members
  | [] => [m]
  | n :: rest =>
    if n.1.name < m.1.name then n :: insertByName m rest else m :: n :: rest

def Members.sortByName (ms : Members) : Members := ms.foldr insertByName []

namespace Schema

variable {α : Type} (schema : Schema α)

def field? (key : String) : Option (RecordField α) := schema.fields.find? (·.key = key)

/-- The known keys in words. -/
def knownKeys : String :=
  match schema.fields.map fun f => s!"`{f.key}`" with
  | [] => "there are no fields"
  | [a] => s!"expected {a}"
  | [a, b] => s!"expected {a} or {b}"
  | keys => "expected one of " ++ ", ".intercalate keys

def readMembers (record : α) : Members → Except Refusal α
  | [] => .ok record
  | (k, v) :: rest =>
    match schema.field? k.name with
    | none => .error ⟨s!"unknown field `{k.name}`, {schema.knownKeys}", k.span⟩
    | some f =>
      match f.read v with
      | .error e => .error e
      | .ok change => readMembers (change record) rest

def readTable (ms : Members) : Except Refusal α :=
  schema.readMembers schema.defaults ms.sortByName

/-- A record stands as a table, or as a list of its fields. -/
def read : Reader α
  | .table _ _ ms => schema.readTable ms
  | .list _ _ items => RecordField.readItems schema.defaults schema.fields items
  | v => .error (v.refuse s!"struct {schema.name}")

end Schema

end BindingTables.Toml

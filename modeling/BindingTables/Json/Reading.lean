import BindingTables.Json.Node

/-! Typed reading of JSON trees: the first problem in reading order is the answer. -/

namespace BindingTables.Json

abbrev Reader (α : Type) := Node → Except Fault α

namespace Node

/-- The fault of finding this node where `expected` should stand. A list or an object is refused
before its bracket, a scalar after its last byte. -/
def refuse (expected : String) : Node → Fault
  | broken faults => faults.kept
  | null stop => ⟨.wrongType .null expected, stop⟩
  | flag b stop => ⟨.wrongType (.flag b) expected, stop⟩
  | number (.error f) _ => f
  | number (.ok n) stop => ⟨.wrongType n.found expected, stop⟩
  | text (.error f) _ => f
  | text (.ok s) stop => ⟨.wrongType (.text s) expected, stop⟩
  | list start _ => ⟨.wrongType .sequence expected, start⟩
  | object start _ => ⟨.wrongType .map expected, start⟩

def asText : Reader String
  | text (.ok s) _ => .ok s
  | n => .error (n.refuse "a string")

def asFlag : Reader Bool
  | flag b _ => .ok b
  | n => .error (n.refuse "a boolean")

/-- A whole number from `low` up to but not including `high`. -/
def asWhole (low high : Int) (expected : String) : Reader Int
  | number (.ok (.whole n)) stop =>
    if low ≤ n ∧ n < high then .ok n else .error ⟨.wrongRange n expected, stop⟩
  | n => .error (n.refuse expected)

def asUInt32 : Reader UInt32 := fun n => (n.asWhole 0 UInt32.size "u32").map (·.toNat.toUInt32)

def asInt64 : Reader Int := asWhole (-0x8000000000000000) 0x8000000000000000 "i64"

def optional {α : Type} (read : Reader α) : Reader (Option α)
  | null _ => .ok none
  | n => (read n).map some

end Node

def Items.readAll {α : Type} (read : Reader α) : Items → Except Fault (List α)
  | close _ => .ok []
  | broken faults => .error faults.kept
  | cons _ item rest =>
    match read item with
    | .error f => .error f
    | .ok a => (rest.readAll read).map (a :: ·)

def Node.listOf {α : Type} (read : Reader α) : Reader (List α)
  | list _ items => items.readAll read
  | n => .error (n.refuse "a sequence")

mutual

/-- The fault that a reader meets who passes over the node. -/
def Node.skipFault? : Node → Option Fault
  | .broken faults => some faults.skipped
  | .list _ items => items.skipFault?
  | .object _ members => members.skipFault?
  | _ => none

def Items.skipFault? : Items → Option Fault
  | .close _ => none
  | .broken faults => some faults.skipped
  | .cons _ item rest => item.skipFault? <|> rest.skipFault?

def Members.skipFault? : Members → Option Fault
  | .close _ => none
  | .broken faults => some faults.skipped
  | .cons _ _ value rest => value.skipFault? <|> rest.skipFault?

end

/-- A field of a record `α`: what reading its value changes in the record. -/
structure RecordField (α : Type) where
  key : String
  required : Bool
  read : Reader (α → α)

/-- A field that takes its value from `read` and stores it with `store`. -/
def RecordField.ofReader {α β : Type} (key : String) (required : Bool) (read : Reader β)
    (store : β → α → α) : RecordField α :=
  ⟨key, required, fun n => (read n).map store⟩

/-- A record as objects hold it: its fields in order of declaration, and the record before any of
them is read, with the defaults of those that may be left out. -/
structure Schema (α : Type) where
  name : String
  fields : List (RecordField α)
  blank : α

namespace Schema

variable {α : Type} (schema : Schema α)

def field? (key : String) : Option (RecordField α) := schema.fields.find? (·.key = key)

/-- The first required field that was not among the keys `seen`. -/
def missing? (seen : List String) : Option (RecordField α) :=
  schema.fields.find? fun f => f.required && !seen.contains f.key

def readMembers (seen : List String) (record : α) : Members → Except Fault α
  | .close stop =>
    match schema.missing? seen with
    | some f => .error ⟨.missingField f.key, stop⟩
    | none => .ok record
  | .broken faults => .error faults.kept
  | .cons (.error f) _ _ _ => .error f
  | .cons (.ok key) settled value rest =>
    match schema.field? key with
    | none =>
      match value.skipFault? with
      | some f => .error f
      | none => readMembers seen record rest
    | some f =>
      if seen.contains key then .error ⟨.duplicateField key, settled⟩
      else
        match f.read value with
        | .error f => .error f
        | .ok change => readMembers (key :: seen) (change record) rest

/-- Reads the fields from a list, in order of declaration; `taken` of them are read. -/
def readItems (taken : Nat) (record : α) : List (RecordField α) → Items → Except Fault α
  | [], .close _ => .ok record
  | [], .broken faults => .error faults.surplus
  | [], .cons start _ _ => .error ⟨.trailingCharacters, start + 1⟩
  | f :: fields, .close stop =>
    if f.required then .error ⟨.tooShort taken schema.name schema.fields.length, stop⟩
    else readItems (taken + 1) record fields (.close stop)
  | _ :: _, .broken faults => .error faults.kept
  | f :: fields, .cons _ item rest =>
    match f.read item with
    | .error f => .error f
    | .ok change => readItems (taken + 1) (change record) fields rest

/-- A record stands as an object, or as a list of its fields. -/
def read : Reader α
  | .object _ members => schema.readMembers [] schema.blank members
  | .list _ items => schema.readItems 0 schema.blank schema.fields items
  | n => .error (n.refuse s!"struct {schema.name}")

end Schema

/-- Reads a whole text: the value and nothing behind it. -/
def readText? {α : Type} (read : Reader α) (source : String) : Except ReadError α :=
  let cs := source.toList
  let document := Document.ofChars cs
  match read document.root, document.trailing with
  | .error f, _ => .error (.ofFault cs f)
  | .ok _, some f => .error (.ofFault cs f)
  | .ok a, none => .ok a

end BindingTables.Json

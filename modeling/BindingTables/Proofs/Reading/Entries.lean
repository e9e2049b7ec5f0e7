import BindingTables.Json.Reading

/-! What a reader makes of a tree, without the offsets: lists and objects are read off their items
and members alone. -/

namespace BindingTables.Json

variable {α β : Type} {schema : Schema α} {es es' : List (String × Node)} {seen seen' : List String}
  {record : α} {k : String} {v : Node}

/-- What the reader makes of the node, if that is anything. -/
def Reader.result? (read : Reader α) (n : Node) : Option α := (read n).toOption

/-- The items of a list that does not break off. -/
def Items.nodes? : Items → Option (List Node)
  | .close _ => some []
  | .broken _ => none
  | .cons _ item rest => rest.nodes?.map (item :: ·)

/-- The keys and values of an object that does not break off. -/
def Members.entries? : Members → Option (List (String × Node))
  | .close _ => some []
  | .cons (.ok key) _ value rest => rest.entries?.map ((key, value) :: ·)
  | _ => none

theorem toOption_map (x : Except Fault α) (f : α → β) :
    (x.map f).toOption = x.toOption.map f := by
  cases x <;> rfl

theorem toOption_readAll (read : Reader α) (items : Items) :
    (items.readAll read).toOption = items.nodes?.bind (·.mapM read.result?) := by
  fun_induction Items.readAll read items with
  | case1 => rfl
  | case2 => rfl
  | case3 start item rest f hf =>
    have hnone : read.result? item = none := by rw [Reader.result?, hf]; rfl
    rw [Items.nodes?]
    cases rest.nodes? with
    | none => rfl
    | some ns => simp [hnone, Except.toOption]
  | case4 start item rest a ha ih =>
    have hsome : read.result? item = some a := by rw [Reader.result?, ha]; rfl
    rw [toOption_map, ih, Items.nodes?]
    cases rest.nodes? with
    | none => rfl
    | some ns => cases hns : ns.mapM read.result? <;> simp [hsome, hns]

namespace Schema

/-- Reads a record off the members that are left. -/
def readEntries (schema : Schema α) (seen : List String) (record : α) :
    List (String × Node) → Option α
  | [] => if (schema.missing? seen).isSome then none else some record
  | (key, value) :: rest =>
    match schema.field? key with
    | none => if value.skipFault?.isSome then none else schema.readEntries seen record rest
    | some f =>
      if seen.contains key then none
      else f.read.result? value |>.bind fun change =>
        schema.readEntries (key :: seen) (change record) rest

/-- Reads a record off items, the fields in their order. -/
def readNodes (record : α) : List (RecordField α) → List Node → Option α
  | [], [] => some record
  | [], _ :: _ => none
  | f :: fields, [] => if f.required then none else readNodes record fields []
  | f :: fields, n :: ns =>
    (f.read.result? n).bind fun change => readNodes (change record) fields ns

theorem toOption_readMembers (members : Members) :
    (schema.readMembers seen record members).toOption =
      members.entries?.bind (schema.readEntries seen record) := by
  fun_induction schema.readMembers seen record members with
  | case1 seen record stop f hf => simp [Members.entries?, readEntries, hf, Except.toOption]
  | case2 seen record stop hf => simp [Members.entries?, readEntries, hf, Except.toOption]
  | case3 => rfl
  | case4 => rfl
  | case5 seen record k settled value rest hk f hf =>
    rw [Members.entries?]
    cases rest.entries? <;> simp [readEntries, hk, hf, Except.toOption]
  | case6 seen record k settled value rest hk hf ih =>
    rw [ih, Members.entries?]
    cases rest.entries? <;> simp [readEntries, hk, hf]
  | case7 seen record k settled value rest f hk hseen =>
    rw [Members.entries?]
    cases rest.entries? <;> simp only [Option.map, Option.bind, readEntries, hk, if_pos hseen] <;>
      rfl
  | case8 seen record k settled value rest f hk hseen e hf =>
    have hnone : f.read.result? value = none := by rw [Reader.result?, hf]; rfl
    rw [Members.entries?]
    cases rest.entries? <;>
      simp only [Option.map, Option.bind, readEntries, hk, if_neg hseen, hnone] <;> rfl
  | case9 seen record k settled value rest f hk hseen change hf ih =>
    have hsome : f.read.result? value = some change := by rw [Reader.result?, hf]; rfl
    rw [ih, Members.entries?]
    cases rest.entries? <;>
      simp only [Option.map, Option.bind, readEntries, hk, if_neg hseen, hsome]

theorem toOption_readItems (taken : Nat) (fields : List (RecordField α)) (items : Items) :
    (schema.readItems taken record fields items).toOption =
      items.nodes?.bind (readNodes record fields) := by
  fun_induction schema.readItems taken record fields items with
  | case1 => rfl
  | case2 => rfl
  | case3 taken record start item rest =>
    rw [Items.nodes?]
    cases rest.nodes? <;> rfl
  | case4 taken record f fields stop hf => simp [Items.nodes?, readNodes, hf, Except.toOption]
  | case5 taken record f fields stop hf ih => simpa [Items.nodes?, readNodes, hf] using ih
  | case6 => rfl
  | case7 taken record f fields start item rest e hf =>
    have hnone : f.read.result? item = none := by rw [Reader.result?, hf]; rfl
    rw [Items.nodes?]
    cases rest.nodes? <;> simp only [Option.map, Option.bind, readNodes, hnone] <;> rfl
  | case8 taken record f fields start item rest change hf ih =>
    have hsome : f.read.result? item = some change := by rw [Reader.result?, hf]; rfl
    rw [ih, Items.nodes?]
    cases rest.nodes? <;> simp only [Option.map, Option.bind, readNodes, hsome]

end Schema

end BindingTables.Json

import Mathlib.Data.List.Perm.Basic
import BindingTables.Proofs.Settings.Tables
import BindingTables.Toml.Reading

/-! A record is read if each member of its table is a field's and is read itself; it has from the
table what its fields read there, and the defaults besides. -/

namespace BindingTables.Toml

variable {α β γ : Type} {schema : Schema α} {record result : α} {ms : Members} {key name : String}
  {read : Reader β} {get : α → β} {v : Value}

/-! The order of the members does not matter. -/

theorem insertByName_perm (m : Key × Value) (ms : Members) :
    (Members.insertByName m ms).Perm (m :: ms) := by
  fun_induction Members.insertByName m ms with
  | case1 => exact .refl _
  | case2 n rest _ ih => exact (ih.cons n).trans (.swap m n rest)
  | case3 => exact .refl _

/-- Sorting by name puts the members in another order and does no more. -/
theorem sortByName_perm (ms : Members) : ms.sortByName.Perm ms := by
  induction ms with
  | nil => exact .refl _
  | cons m ms ih => exact (insertByName_perm m _).trans (ih.cons m)

namespace Members

theorem find?_eq_some_iff (h : (ms.map (·.1.name)).Nodup) :
    find? name ms = some v ↔ ∃ k, k.name = name ∧ (k, v) ∈ ms := by
  refine ⟨mem_of_find?, ?_⟩
  rintro ⟨k, rfl, hmem⟩
  fun_induction find? k.name ms with
  | case1 => cases hmem
  | case2 k' w rest hname =>
    rw [List.map_cons, List.nodup_cons] at h
    rcases List.mem_cons.mp hmem with heq | hrest
    · cases heq
      rfl
    · exact absurd (hname ▸ List.mem_map_of_mem hrest) h.1
  | case3 k' w rest hne ih =>
    rw [List.map_cons, List.nodup_cons] at h
    rcases List.mem_cons.mp hmem with heq | hrest
    · cases heq
      exact absurd rfl hne
    · exact ih h.2 hrest

/-- Among members whose names are distinct it is no matter which comes first. -/
theorem find?_perm {ms' : Members} (h : (ms.map (·.1.name)).Nodup) (hperm : ms'.Perm ms) :
    find? name ms' = find? name ms := by
  have h' : (ms'.map (·.1.name)).Nodup := (hperm.map _).nodup_iff.mpr h
  apply Option.ext
  intro v
  rw [find?_eq_some_iff h, find?_eq_some_iff h']
  simp only [hperm.mem_iff]

end Members

/-! Which tables are read. -/

/-- The member belongs to a field, and the field reads it. -/
def Schema.Accepts (schema : Schema α) (m : Key × Value) : Prop :=
  ∃ f, schema.field? m.1.name = some f ∧ ∃ change, f.read m.2 = .ok change

/-- With distinct keys, a field that has the name of the member is the one that is found. -/
theorem Schema.accepts_iff {m : Key × Value} (hkeys : (schema.fields.map (·.key)).Nodup) :
    schema.Accepts m ↔
      ∃ f ∈ schema.fields, f.key = m.1.name ∧ ∃ change, f.read m.2 = .ok change := by
  constructor
  · rintro ⟨f, hf, hread⟩
    exact ⟨f, List.mem_of_find?_eq_some hf, by simpa using List.find?_some hf, hread⟩
  · rintro ⟨f, hf, hkey, hread⟩
    refine ⟨f, ?_, hread⟩
    have hsome : (schema.field? m.1.name).isSome :=
      List.find?_isSome.mpr ⟨f, hf, decide_eq_true hkey⟩
    obtain ⟨g, hg⟩ := Option.isSome_iff_exists.mp hsome
    have hgkey : g.key = m.1.name := by simpa using List.find?_some hg
    have hsame := List.inj_on_of_nodup_map hkeys hf (List.mem_of_find?_eq_some hg)
      (hkey.trans hgkey.symm)
    rw [hsame]
    exact hg

/-- Reading stops at the first member that no field accepts, and at nothing else. -/
theorem exists_readMembers_iff :
    (∃ result, schema.readMembers record ms = .ok result) ↔ ∀ m ∈ ms, schema.Accepts m := by
  fun_induction schema.readMembers record ms with
  | case1 => simp
  | case2 record k v rest hnone => simp [Schema.Accepts, hnone]
  | case3 record k v rest f hf e hread => simp [Schema.Accepts, hf, hread]
  | case4 record k v rest f hf change hread ih => simp [ih, Schema.Accepts, hf, hread]

theorem exists_readTable_iff :
    (∃ record, schema.readTable ms = .ok record) ↔ ∀ m ∈ ms, schema.Accepts m := by
  rw [Schema.readTable, exists_readMembers_iff]
  simp only [(sortByName_perm ms).mem_iff]

/-! What the record holds of the table. -/

/-- Reading the field changes nothing of what `get` takes from a record. -/
def RecordField.Keeps (f : RecordField α) (get : α → β) : Prop :=
  ∀ v change, f.read v = .ok change → ∀ record, get (change record) = get record

theorem read_ofReader_eq_ok_iff {store : β → α → α} {change : α → α} :
    (RecordField.ofReader key read store).read v = .ok change ↔
      ∃ b, read v = .ok b ∧ store b = change := by
  cases hread : read v with
  | error e => simp [RecordField.ofReader, Except.map, hread]
  | ok b => simp [RecordField.ofReader, Except.map, hread]

theorem exists_read_ofReader_iff {store : β → α → α} :
    (∃ change, (RecordField.ofReader key read store).read v = .ok change) ↔
      ∃ b, read v = .ok b := by
  simp [read_ofReader_eq_ok_iff]

@[simp]
theorem key_ofReader {store : β → α → α} : (RecordField.ofReader key read store).key = key := rfl

theorem keeps_ofReader {read : Reader γ} {store : γ → α → α}
    (h : ∀ c record, get (store c record) = get record) :
    (RecordField.ofReader key read store).Keeps get := by
  intro v change hread record
  obtain ⟨c, -, rfl⟩ := read_ofReader_eq_ok_iff.mp hread
  exact h c record

/-- Of all fields only the one with the key sets what `get` takes from a record, and sets it to
what `read` gives. -/
structure Schema.Sets (schema : Schema α) (key : String) (read : Reader β) (get : α → β) :
    Prop where
  own : ∃ store, schema.field? key = some (.ofReader key read store) ∧
    ∀ b record, get (store b record) = b
  others : ∀ f ∈ schema.fields, f.key ≠ key → f.Keeps get

/-- The value that was found reads as `new`; without one, `new` is what was there. -/
def Filled (read : Reader β) (found : Option Value) (old new : β) : Prop :=
  match found with
  | some v => read v = .ok new
  | none => new = old

/-- What a run over the members leaves in the record is the one value given for the key, or what the
record had before. -/
theorem Schema.Sets.readMembers_filled (hsets : schema.Sets key read get)
    (hnames : (ms.map (·.1.name)).Nodup) (h : schema.readMembers record ms = .ok result) :
    Filled read (Members.find? key ms) (get record) (get result) := by
  obtain ⟨store, hown, hstore⟩ := hsets.own
  -- a member with the key sets the field for good: no name comes twice, so no later one does
  fun_induction schema.readMembers record ms with
  | case1 =>
    cases h
    rfl
  | case2 => cases h
  | case3 => cases h
  | case4 record k v rest f hf change hread ih =>
    rw [List.map_cons, List.nodup_cons] at hnames
    have hrest := ih hnames.2 h
    rw [Members.find?]
    split
    · rename_i hk
      rw [← hk] at hown hrest
      rw [Members.find?_eq_none_iff.mpr hnames.1] at hrest
      rw [hown] at hf
      cases hf
      obtain ⟨b, hb, rfl⟩ := read_ofReader_eq_ok_iff.mp hread
      rw [Filled, hrest, hstore]
      exact hb
    · rename_i hk
      have hkey : f.key = k.name := by simpa using List.find?_some hf
      have hkept := hsets.others f (List.mem_of_find?_eq_some hf) (hkey ▸ hk) v change hread
      rwa [hkept] at hrest

theorem Schema.Sets.filled (hsets : schema.Sets key read get) (hms : Members.Distinct ms)
    (h : schema.readTable ms = .ok record) :
    Filled read (ms.find? key) (get schema.defaults) (get record) := by
  have hperm := sortByName_perm ms
  rw [← Members.find?_perm hms.names hperm]
  exact hsets.readMembers_filled ((hperm.map _).nodup_iff.mpr hms.names) h

/-! Records in records. -/

/-- All members are tables. -/
def Members.OfTables (ms : Members) : Prop :=
  ∀ m ∈ ms, ∃ span origin inner, m.2 = .table span origin inner

/-- The value that the members of a table have under the key. -/
def Members.valueIn? (table key : String) (ms : Members) : Option Value :=
  match ms.find? table with
  | some (.table _ _ inner) => find? key inner
  | _ => none

/-- The same two tables deep: without the outer table the inner default stands, as long as the outer
defaults agree with it. -/
theorem Schema.Sets.filled_in {inner : Schema β} {table : String} {get' : β → γ}
    {read : Reader γ} (houter : schema.Sets table inner.read get)
    (hinner : inner.Sets key read get') (hdefaults : get schema.defaults = inner.defaults)
    (hms : Members.Distinct ms) (htables : ms.OfTables) (h : schema.readTable ms = .ok record) :
    Filled read (ms.valueIn? table key) (get' inner.defaults) (get' (get record)) := by
  have hfilled := houter.filled hms h
  unfold Members.valueIn?
  cases hfind : ms.find? table with
  | none =>
    rw [hfind] at hfilled
    change get record = _ at hfilled
    rw [hfilled, hdefaults]
    rfl
  | some v =>
    obtain ⟨k, -, hmem⟩ := Members.mem_of_find? hfind
    obtain ⟨span, origin, members, rfl⟩ := htables _ hmem
    rw [hfind] at hfilled
    exact hinner.filled (Members.distinct_of_table (hms.find hfind)) hfilled

/-- The reader gives what the value is said to be, and nothing else. -/
def Reads (read : Reader β) (content? : Value → Option β) : Prop :=
  ∀ v, (read v).toOption = content? v

variable {content? : Value → Option β}

theorem Reads.exists_iff (h : Reads read content?) :
    (∃ b, read v = .ok b) ↔ (content? v).isSome := by
  rw [← h v]
  cases read v <;> simp [Except.toOption]

/-- A list is read if each of its items is. -/
theorem Reads.mapM (h : Reads read content?) (vs : List Value) :
    (vs.mapM read).toOption = vs.mapM content? := by
  induction vs with
  | nil => rfl
  | cons v vs ih =>
    rw [List.mapM_cons, List.mapM_cons, ← h v, ← ih]
    cases read v with
    | error e => rfl
    | ok b => cases vs.mapM read <;> rfl

theorem Filled.eq_getD {found : Option Value} {old new : β} (h : Filled read found old new)
    (hread : Reads read content?) : new = (found.bind content?).getD old := by
  cases found with
  | none => exact h
  | some v =>
    change read v = .ok new at h
    rw [Option.bind_some, ← hread v, h]
    rfl

end BindingTables.Toml

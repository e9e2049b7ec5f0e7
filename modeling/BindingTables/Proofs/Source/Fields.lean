import Mathlib.Data.List.Forall2
import BindingTables.Json.Reading
import BindingTables.Proofs.Source.Literals

/-! What a record holds is read from the values that its tree has for the fields. -/

namespace BindingTables.Json

variable {α β γ : Type} {source : List Char} {key : String} {start stop : Nat} {node : Node}
  {record result : α} {schema : Schema α} {read : Reader β} {get : α → β} {required : Bool}
  {f : RecordField α} {fields : List (RecordField α)} {place : Nat × Node}

/-- The items of a list, each behind the offset at which it starts. -/
def Items.placed : Items → List (Nat × Node)
  | .cons start item rest => (start, item) :: rest.placed
  | _ => []

/-- The value of the first member with the key, behind the offset at which it starts. -/
def Members.value? (source : List Char) (key : String) : Members → Option (Nat × Node)
  | .cons (.ok k) settled value rest =>
    if k = key then some (valueStart source settled, value) else rest.value? source key
  | _ => none

namespace Schema

/-- The value that a record's node has for the field with the key, behind the offset at which it
starts. -/
def value? (schema : Schema α) (source : List Char) (key : String) : Node → Option (Nat × Node)
  | .object _ members => members.value? source key
  | .list _ items => items.placed[schema.fields.findIdx (·.key = key)]?
  | _ => none

/-- The items of the list that a record's node has for the field with the key. -/
def entries (schema : Schema α) (source : List Char) (key : String) (node : Node) :
    List (Nat × Node) :=
  match schema.value? source key node with
  | some (_, .list _ items) => items.placed
  | _ => []

end Schema

/-! Where they stand. -/

theorem Items.Placed.mem {items : Items} (h : items.Placed source) (hp : place ∈ items.placed) :
    place.2.Placed source place.1 := by
  fun_induction Items.placed items with
  | case1 start item rest ih =>
    rw [Items.Placed] at h
    rcases List.mem_cons.mp hp with rfl | hrest
    · exact h.1
    · exact ih h.2 hrest
  | case2 => cases hp

theorem Members.Placed.value {members : Members} (h : members.Placed source)
    (hv : members.value? source key = some place) : place.2.Placed source place.1 := by
  fun_induction Members.value? source key members with
  | case1 settled value rest =>
    rw [Members.Placed] at h
    cases hv
    exact h.1
  | case2 k settled value rest _ ih =>
    rw [Members.Placed] at h
    exact ih h.2 hv
  | case3 => cases hv

theorem Node.Placed.value (h : node.Placed source start)
    (hv : schema.value? source key node = some place) : place.2.Placed source place.1 := by
  unfold Schema.value? at hv
  split at hv
  · rw [Node.Placed] at h
    exact h.value hv
  · rw [Node.Placed] at h
    exact h.mem (List.mem_of_getElem? hv)
  · cases hv

theorem Node.Placed.entry (h : node.Placed source start)
    (hp : place ∈ schema.entries source key node) : place.2.Placed source place.1 := by
  unfold Schema.entries at hp
  split at hp
  · rename_i hv
    have hlist := h.value hv
    rw [Node.Placed] at hlist
    exact hlist.mem hp
  · cases hp

/-! What the record holds of them. -/

/-- Reading the field changes nothing of what `get` takes from a record. -/
def RecordField.Keeps (f : RecordField α) (get : α → β) : Prop :=
  ∀ node change, f.read node = .ok change → ∀ record, get (change record) = get record

@[simp]
theorem key_ofReader {read : Reader γ} {store : γ → α → α} :
    (RecordField.ofReader key required read store).key = key := rfl

theorem keeps_ofReader {read : Reader γ} {store : γ → α → α}
    (h : ∀ c record, get (store c record) = get record) :
    (RecordField.ofReader key required read store).Keeps get := by
  intro node change hread record
  obtain ⟨c, -, rfl⟩ := map_eq_ok_iff.mp hread
  exact h c record

/-- Of all fields only the one with the key sets what `get` takes from a record, and sets it to
what `read` gives. -/
structure Schema.Sets (schema : Schema α) (key : String) (required : Bool) (read : Reader β)
    (get : α → β) : Prop where
  own : ∃ store, schema.field? key = some (.ofReader key required read store) ∧
    ∀ b record, get (store b record) = b
  others : ∀ f ∈ schema.fields, f.key ≠ key → f.Keeps get
  keys_nodup : (schema.fields.map (·.key)).Nodup

/-- The value that was found reads as `new`; without one what was there stays, and the field was
not required. -/
def Filled (read : Reader β) (required : Bool) (found : Option (Nat × Node)) (old new : β) :
    Prop :=
  match found with
  | some (_, value) => read value = .ok new
  | none => required = false ∧ new = old

namespace Schema

/-- What a field has set is not set again: a second member with its key is refused. -/
theorem Sets.readMembers_seen (hsets : schema.Sets key required read get) {seen : List String}
    {members : Members} (hseen : key ∈ seen)
    (h : schema.readMembers seen record members = .ok result) : get result = get record := by
  fun_induction schema.readMembers seen record members with
  | case1 => cases h
  | case2 =>
    cases h
    rfl
  | case3 => cases h
  | case4 => cases h
  | case5 => cases h
  | case6 seen record k settled value rest _ _ ih => exact ih hseen h
  | case7 => cases h
  | case8 => cases h
  | case9 seen record k settled value rest f hf hnew change hread ih =>
    have hne : f.key ≠ key := by
      intro hkey
      have hk := List.find?_some hf
      rw [decide_eq_true_eq] at hk
      rw [← hk, hkey] at hnew
      exact hnew (List.contains_iff_mem.mpr hseen)
    rw [ih (List.mem_cons_of_mem k hseen) h]
    exact hsets.others f (List.mem_of_find?_eq_some hf) hne value change hread record

theorem Sets.readMembers_filled (hsets : schema.Sets key required read get) {seen : List String}
    {members : Members} (hseen : key ∉ seen)
    (h : schema.readMembers seen record members = .ok result) :
    Filled read required (members.value? source key) (get record) (get result) := by
  obtain ⟨store, hown, hstore⟩ := hsets.own
  fun_induction schema.readMembers seen record members with
  | case1 => cases h
  | case2 seen record stop hmissing =>
    cases h
    have hpresent := List.find?_eq_none.mp hmissing _ (List.mem_of_find?_eq_some hown)
    refine ⟨?_, rfl⟩
    simpa [RecordField.ofReader, hseen] using hpresent
  | case3 => cases h
  | case4 => cases h
  | case5 => cases h
  | case6 seen record k settled value rest hnone _ ih =>
    have hne : k ≠ key := by
      rintro rfl
      rw [hown] at hnone
      cases hnone
    rw [Members.value?, if_neg hne]
    exact ih hseen h
  | case7 => cases h
  | case8 => cases h
  | case9 seen record k settled value rest f hf hnew change hread ih =>
    by_cases hk : k = key
    · subst hk
      rw [hown] at hf
      cases hf
      obtain ⟨b, hb, rfl⟩ := map_eq_ok_iff.mp hread
      rw [Members.value?, if_pos rfl]
      have hsame := hsets.readMembers_seen List.mem_cons_self h
      rw [hstore] at hsame
      rw [Filled, hsame]
      exact hb
    · have hkey := List.find?_some hf
      rw [decide_eq_true_eq] at hkey
      have hkept := hsets.others f (List.mem_of_find?_eq_some hf) (hkey ▸ hk) value change hread
      rw [Members.value?, if_neg hk, ← hkept record]
      exact ih (by simp [hseen, Ne.symm hk]) h

/-- No field with the key is left to be read. -/
theorem readItems_kept (hothers : ∀ f ∈ fields, f.key ≠ key → f.Keeps get)
    (hread : key ∉ fields.map (·.key)) {taken : Nat} {items : Items}
    (h : schema.readItems taken record fields items = .ok result) : get result = get record := by
  fun_induction schema.readItems taken record fields items with
  | case1 =>
    cases h
    rfl
  | case2 => cases h
  | case3 => cases h
  | case4 => cases h
  | case5 taken record f fields stop _ ih =>
    rw [List.forall_mem_cons] at hothers
    rw [List.map_cons, List.mem_cons, not_or] at hread
    exact ih hothers.2 hread.2 h
  | case6 => cases h
  | case7 => cases h
  | case8 taken record f fields start item rest change hchange ih =>
    rw [List.forall_mem_cons] at hothers
    rw [List.map_cons, List.mem_cons, not_or] at hread
    rw [ih hothers.2 hread.2 h]
    exact hothers.1 (Ne.symm hread.1) item change hchange record

/-- The field with the key is left to be read. -/
theorem readItems_filled {store : β → α → α}
    (hown : fields.find? (·.key = key) = some (.ofReader key required read store))
    (hstore : ∀ b record, get (store b record) = b)
    (hothers : ∀ f ∈ fields, f.key ≠ key → f.Keeps get)
    (hnodup : (fields.map (·.key)).Nodup) {taken : Nat} {items : Items}
    (h : schema.readItems taken record fields items = .ok result) :
    Filled read required items.placed[fields.findIdx (·.key = key)]? (get record) (get result) := by
  fun_induction schema.readItems taken record fields items with
  | case1 => cases hown
  | case2 => cases h
  | case3 => cases h
  | case4 => cases h
  | case5 taken record f fields stop hrequired ih =>
    rw [List.forall_mem_cons] at hothers
    rw [List.map_cons, List.nodup_cons] at hnodup
    by_cases hkey : f.key = key
    · rw [List.find?_cons_of_pos (by simpa using hkey)] at hown
      cases hown
      exact ⟨(Bool.not_eq_true _).mp hrequired, readItems_kept hothers.2 hnodup.1 h⟩
    · rw [List.find?_cons_of_neg (by simpa using hkey)] at hown
      exact ih hown hothers.2 hnodup.2 h
  | case6 => cases h
  | case7 => cases h
  | case8 taken record f fields start item rest change hchange ih =>
    rw [List.forall_mem_cons] at hothers
    rw [List.map_cons, List.nodup_cons] at hnodup
    by_cases hkey : f.key = key
    · rw [List.find?_cons_of_pos (by simpa using hkey)] at hown
      cases hown
      obtain ⟨b, hb, rfl⟩ := map_eq_ok_iff.mp hchange
      have hsame := readItems_kept hothers.2 hnodup.1 h
      rw [hstore] at hsame
      simpa [List.findIdx_cons, RecordField.ofReader, Items.placed, Filled, hsame] using hb
    · rw [List.find?_cons_of_neg (by simpa using hkey)] at hown
      have hfilled := ih hown hothers.2 hnodup.2 h
      rw [hothers.1 hkey item change hchange record] at hfilled
      simpa [List.findIdx_cons, hkey, Items.placed] using hfilled

/-- A record has in the field what its node has there. -/
theorem Sets.filled (hsets : schema.Sets key required read get) (source : List Char)
    (h : schema.read node = .ok record) :
    Filled read required (schema.value? source key node) (get schema.blank) (get record) := by
  unfold Schema.read at h
  split at h
  · exact hsets.readMembers_filled List.not_mem_nil h
  · obtain ⟨store, hown, hstore⟩ := hsets.own
    exact readItems_filled hown hstore hsets.others hsets.keys_nodup h
  · cases h

end Schema

theorem asText_eq_ok {s : String} (h : node.asText = .ok s) :
    ∃ stop, node = .text (.ok s) stop := by
  unfold Node.asText at h
  split at h
  · cases h
    exact ⟨_, rfl⟩
  · cases h

theorem readAll_forall₂ {items : Items} {bs : List β} (h : items.readAll read = .ok bs) :
    List.Forall₂ (fun place b => read place.2 = .ok b) items.placed bs := by
  fun_induction Items.readAll read items generalizing bs with
  | case1 =>
    cases h
    exact .nil
  | case2 => cases h
  | case3 => cases h
  | case4 start item rest b hb ih =>
    obtain ⟨bs, hbs, rfl⟩ := map_eq_ok_iff.mp h
    exact .cons hb (ih hbs)

namespace Schema

/-- The text that a record must have stands in its node. -/
theorem Sets.text {get : α → String} (hsets : schema.Sets key true Node.asText get)
    (source : List Char) (h : schema.read node = .ok record) : ∃ start stop,
      schema.value? source key node = some (start, .text (.ok (get record)) stop) := by
  have hfilled := hsets.filled source h
  cases hvalue : schema.value? source key node with
  | none =>
    rw [hvalue] at hfilled
    exact absurd hfilled.1 (by simp)
  | some place =>
    rw [hvalue] at hfilled
    obtain ⟨start, value⟩ := place
    obtain ⟨stop, rfl⟩ := asText_eq_ok hfilled
    exact ⟨start, stop, rfl⟩

/-- A record lists what its node lists. -/
theorem Sets.entries {inner : Schema β} {get : α → List β}
    (hsets : schema.Sets key required (Node.listOf inner.read) get)
    (source : List Char) (hblank : get schema.blank = []) (h : schema.read node = .ok record) :
    List.Forall₂ (fun place b => inner.read place.2 = .ok b) (schema.entries source key node)
      (get record) := by
  have hfilled := hsets.filled source h
  unfold Schema.entries
  cases hvalue : schema.value? source key node with
  | none =>
    rw [hvalue] at hfilled
    rw [hfilled.2, hblank]
    exact .nil
  | some place =>
    rw [hvalue] at hfilled
    obtain ⟨start, value⟩ := place
    change value.listOf inner.read = _ at hfilled
    unfold Node.listOf at hfilled
    split at hfilled
    · exact readAll_forall₂ hfilled
    · cases hfilled

end Schema

end BindingTables.Json

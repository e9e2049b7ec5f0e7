import BindingTables.Proofs.Bindings.Classes
import BindingTables.Proofs.Bindings.Decoding
import BindingTables.Proofs.Reading.Records

/-! Dumps that are read have enum values of 64 bits, and so do the tables that they lead to. -/

namespace BindingTables

open BindingTables.Json

/-! What holds of all that a reader gives. -/

namespace Json

variable {α β : Type} {P : α → Prop} {Q : β → Prop} {key : String} {required : Bool}
  {read : Reader β} {store : β → α → α} {schema : Schema α}

/-- All that the reader gives has the property. -/
def Reader.Gives (read : Reader β) (Q : β → Prop) : Prop := ∀ n b, read.result? n = some b → Q b

/-- A record with the property still has it when the field is read. -/
def RecordField.Preserves (f : RecordField α) (P : α → Prop) : Prop :=
  f.read.Gives fun change => ∀ record, P record → P (change record)

/-- What holds of all values that a reader gives can be kept by the field that stores them. -/
theorem preserves_of_gives (h : read.Gives Q)
    (hstore : ∀ b record, Q b → P record → P (store b record)) :
    (RecordField.ofReader key required read store).Preserves P := by
  intro n change hchange record hrecord
  rw [result?_ofReader] at hchange
  obtain ⟨b, hb, rfl⟩ := Option.map_eq_some_iff.mp hchange
  exact hstore b record (h n b hb) hrecord

theorem preserves_of_store (hstore : ∀ b record, P record → P (store b record)) :
    (RecordField.ofReader key required read store).Preserves P :=
  preserves_of_gives (fun _ _ _ => trivial) fun b record (_ : True) => hstore b record

theorem forall_mem_of_mapM (h : read.Gives Q) {ns : List Node} {bs : List β}
    (hbs : ns.mapM read.result? = some bs) : ∀ b ∈ bs, Q b := by
  induction ns generalizing bs with
  | nil =>
    cases hbs
    exact List.forall_mem_nil Q
  | cons n ns ih =>
    rw [List.mapM_cons] at hbs
    obtain ⟨b, hb, hbs⟩ := Option.bind_eq_some_iff.mp hbs
    obtain ⟨rest, hrest, hbs⟩ := Option.bind_eq_some_iff.mp hbs
    cases hbs
    exact List.forall_mem_cons.mpr ⟨h n b hb, ih hrest⟩

theorem gives_listOf (h : read.Gives Q) :
    Reader.Gives (Node.listOf read) fun bs => ∀ b ∈ bs, Q b := by
  intro n bs hbs
  cases n with
  | list start items =>
    change (items.readAll read).toOption = some bs at hbs
    rw [toOption_readAll] at hbs
    obtain ⟨ns, -, hbs⟩ := Option.bind_eq_some_iff.mp hbs
    exact forall_mem_of_mapM h hbs
  | _ => cases hbs

namespace Schema

theorem readEntries_preserves (hfields : ∀ f ∈ schema.fields, f.Preserves P) {seen : List String}
    {record result : α} {es : List (String × Node)} (hrecord : P record)
    (h : schema.readEntries seen record es = some result) : P result := by
  fun_induction schema.readEntries seen record es with
  | case1 => cases h
  | case2 =>
    cases h
    exact hrecord
  | case3 => cases h
  | case4 seen record k v es _ _ ih => exact ih hrecord h
  | case5 => cases h
  | case6 seen record k v es f hf _ ih =>
    obtain ⟨change, hchange, h⟩ := Option.bind_eq_some_iff.mp h
    exact ih change (hfields f (List.mem_of_find?_eq_some hf) v change hchange record hrecord) h

theorem readNodes_preserves {fields : List (RecordField α)}
    (hfields : ∀ f ∈ fields, f.Preserves P) {record result : α} {ns : List Node}
    (hrecord : P record) (h : readNodes record fields ns = some result) : P result := by
  fun_induction readNodes record fields ns with
  | case1 =>
    cases h
    exact hrecord
  | case2 => cases h
  | case3 => cases h
  | case4 record f fields _ ih =>
    rw [List.forall_mem_cons] at hfields
    exact ih hfields.2 hrecord h
  | case5 record f fields n ns ih =>
    rw [List.forall_mem_cons] at hfields
    obtain ⟨change, hchange, h⟩ := Option.bind_eq_some_iff.mp h
    exact ih change hfields.2 (hfields.1 n change hchange record hrecord) h

/-- What the blank record has and each field preserves, all records have that are read. -/
theorem gives_of_preserves (hblank : P schema.blank)
    (hfields : ∀ f ∈ schema.fields, f.Preserves P) : schema.read.Gives P := by
  intro n a h
  cases n with
  | object start ms =>
    change (schema.readMembers _ _ _).toOption = some a at h
    rw [toOption_readMembers] at h
    obtain ⟨es, -, h⟩ := Option.bind_eq_some_iff.mp h
    exact readEntries_preserves hfields hblank h
  | list start items =>
    change (schema.readItems _ _ _ _).toOption = some a at h
    rw [toOption_readItems] at h
    obtain ⟨ns, -, h⟩ := Option.bind_eq_some_iff.mp h
    exact readNodes_preserves hfields hblank h
  | _ => cases h

end Schema

end Json

/-! Enum values. -/

/-- The value is a number of 64 bits. -/
def EnumValue.Fits (v : EnumValue) : Prop :=
  -0x8000000000000000 ≤ v.value ∧ v.value < 0x8000000000000000

def Enum.Fits (e : Enum) : Prop := ∀ v ∈ e.values, v.Fits

def Class.Fits (c : Class) : Prop := ∀ e ∈ c.enums, e.Fits

def Api.Fits (api : Api) : Prop :=
  (∀ e ∈ api.globalEnums, e.Fits) ∧ (∀ c ∈ api.builtinClasses, c.Fits) ∧
    ∀ c ∈ api.classes, c.Fits

theorem gives_asInt64 :
    Node.asInt64.Gives fun n => -0x8000000000000000 ≤ n ∧ n < 0x8000000000000000 := by
  intro n m h
  unfold Reader.result? Node.asInt64 Node.asWhole at h
  split at h
  · split at h
    · rename_i hm
      cases h
      exact hm
    · cases h
  · cases h

theorem EnumValue.gives_fits : schema.read.Gives Fits := by
  refine Schema.gives_of_preserves (by simp [schema, Fits]) ?_
  simp only [schema, List.forall_mem_cons]
  refine ⟨preserves_of_store fun _ _ h => h, ?_, List.forall_mem_nil _⟩
  exact preserves_of_gives gives_asInt64 fun _ _ hn _ => hn

theorem Enum.gives_fits : schema.read.Gives Fits := by
  refine Schema.gives_of_preserves (List.forall_mem_nil _) ?_
  simp only [schema, List.forall_mem_cons]
  refine ⟨preserves_of_store fun _ _ h => h, preserves_of_store fun _ _ h => h, ?_,
    List.forall_mem_nil _⟩
  exact preserves_of_gives (gives_listOf EnumValue.gives_fits) fun _ _ hvs _ => hvs

theorem Class.gives_fits : schema.read.Gives Fits := by
  refine Schema.gives_of_preserves (List.forall_mem_nil _) ?_
  have hother {β : Type} {key : String} {required : Bool} {read : Reader β}
      {store : β → Class → Class} (h : ∀ b c, (store b c).enums = c.enums) :
      (RecordField.ofReader key required read store).Preserves Fits :=
    preserves_of_store fun b c hc => by rwa [Fits, h]
  simp only [schema, List.forall_mem_cons]
  refine ⟨hother fun _ _ => rfl, hother fun _ _ => rfl, hother fun _ _ => rfl,
    hother fun _ _ => rfl, hother fun _ _ => rfl, hother fun _ _ => rfl, hother fun _ _ => rfl, ?_,
    List.forall_mem_nil _⟩
  exact preserves_of_gives (gives_listOf Enum.gives_fits) fun _ _ hes _ => hes

namespace Api

theorem gives_fits : schema.read.Gives Fits := by
  refine Schema.gives_of_preserves (by simp [schema, empty, Fits]) ?_
  simp only [schema, List.forall_mem_cons]
  refine ⟨preserves_of_store fun _ _ h => h, ?_, preserves_of_store fun _ _ h => h, ?_, ?_,
    preserves_of_store fun _ _ h => h, List.forall_mem_nil _⟩
  · exact preserves_of_gives (gives_listOf Enum.gives_fits) fun _ _ hes h => ⟨hes, h.2⟩
  · exact preserves_of_gives (gives_listOf Class.gives_fits) fun _ _ hcs h => ⟨h.1, hcs, h.2.2⟩
  · exact preserves_of_gives (gives_listOf Class.gives_fits) fun _ _ hcs h => ⟨h.1, h.2.1, hcs⟩

theorem fits_of_mem_boundClasses {api : Api} (h : api.Fits) {o : Options} {c : Section × Class}
    (hc : c ∈ o.boundClasses api) : c.2.Fits := by
  rw [Options.boundClasses_eq] at hc
  rcases List.mem_append.mp hc with hc | hc
  · obtain ⟨d, hd, rfl⟩ := List.mem_map.mp hc
    exact h.2.1 d (List.mem_of_mem_filter hd)
  · obtain ⟨d, hd, rfl⟩ := List.mem_map.mp hc
    exact h.2.2 d (List.mem_of_mem_filter hd)

/-- Lowering copies the values of enums. -/
theorem fits_lower {api : Api} (h : api.Fits) (o : Options) : (api.lower o).Fits := by
  have hlower {e : Enum} (he : e.Fits) : ∀ v ∈ e.lower.values,
      -0x8000000000000000 ≤ v.value ∧ v.value < 0x8000000000000000 := by
    intro v hv
    obtain ⟨w, hw, rfl⟩ := List.mem_map.mp hv
    exact he w hw
  intro e he
  rcases List.mem_append.mp he with he | he
  · obtain ⟨d, hd, rfl⟩ := List.mem_map.mp he
    exact hlower (h.1 d hd)
  · rw [allClasses_lower] at he
    obtain ⟨table, htable, he⟩ := List.mem_flatMap.mp he
    obtain ⟨c, hc, rfl⟩ := List.mem_map.mp htable
    obtain ⟨d, hd, rfl⟩ := List.mem_map.mp he
    exact hlower (fits_of_mem_boundClasses h hc d hd)

/-- The tables of a dump that is read have values of 64 bits, whatever the options. -/
theorem fits_lower_of_ofJson {text : String} {api : Api} (h : ofJson text = .ok api)
    (o : Options) : (api.lower o).Fits :=
  fits_lower (gives_fits _ api (ofJson_eq_ok_iff.mp h).1) o

end Api

end BindingTables

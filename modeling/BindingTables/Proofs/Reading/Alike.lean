import Mathlib.Data.List.Find
import Mathlib.Data.List.Forall2
import Mathlib.Data.List.Nodup
import Mathlib.Data.List.Pairwise
import BindingTables.Proofs.Reading.Entries

/-! Trees that are alike for a reader. A record may have its members in any order, members that it
does not know, and a null in the place of an optional member that is absent. -/

namespace BindingTables.Json

variable {α β : Type}

/-! Likenesses of values. -/

/-- The same scalar, wherever it stands. -/
inductive Leaf : Node → Node → Prop
  | flag (b : Bool) (i j : Nat) : Leaf (.flag b i) (.flag b j)
  | number (n : Except Fault Number) (i j : Nat) : Leaf (.number n i) (.number n j)
  | text (s : Except Fault String) (i j : Nat) : Leaf (.text s i) (.text s j)

/-- Both are null, or neither is and they are alike. -/
def OptionalAlike (R : Node → Node → Prop) : Node → Node → Prop
  | .null _, .null _ => True
  | .null _, _ => False
  | _, .null _ => False
  | n, n' => R n n'

/-- Lists with items that are alike, one by one. -/
inductive ListAlike (R : Node → Node → Prop) : Node → Node → Prop
  | list {start start' : Nat} {items items' : Items} {ns ns' : List Node}
      (left : items.nodes? = some ns) (right : items'.nodes? = some ns')
      (alike : List.Forall₂ R ns ns') : ListAlike R (.list start items) (.list start' items')

/-- A field of a record: whether null stands for its absence, and when two values for it are
alike. -/
structure Slot where
  key : String
  nullable : Bool
  Alike : Node → Node → Prop

/-- The field with the key. -/
def Slot.named? (slots : List Slot) (key : String) : Option Slot := slots.find? (·.key = key)

/-- The value of a field may change for one that is alike, and any other value at will. -/
structure MemberAlike (slots : List Slot) (e e' : String × Node) : Prop where
  key : e.1 = e'.1
  known : ∀ s, Slot.named? slots e.1 = some s → s.Alike e.2 e'.2
  unknown : Slot.named? slots e.1 = none → e.2.skipFault? = none ∧ e'.2.skipFault? = none

theorem memberAlike_of_named {slots : List Slot} {k : String} {s : Slot} {v v' : Node}
    (hslot : Slot.named? slots k = some s) (h : s.Alike v v') :
    MemberAlike slots (k, v) (k, v') where
  key := rfl
  known s' hslot' := by
    rw [hslot] at hslot'
    cases hslot'
    exact h
  unknown hnone := by
    rw [hslot] at hnone
    cases hnone

/-- Members that say the same of a record with these fields. -/
inductive EntriesAlike (slots : List Slot) : List (String × Node) → List (String × Node) → Prop
  | reordered {es es' : List (String × Node)} (h : es.Perm es') : EntriesAlike slots es es'
  /-- A member that is no field, with any value that is well formed. -/
  | unknown {k : String} {v : Node} (es : List (String × Node)) (hslot : Slot.named? slots k = none)
      (hvalue : v.skipFault? = none) : EntriesAlike slots ((k, v) :: es) es
  | absent {k : String} {s : Slot} (stop : Nat) {es : List (String × Node)}
      (hslot : Slot.named? slots k = some s) (hnull : s.nullable = true)
      (hkey : ∀ e ∈ es, e.1 ≠ k) : EntriesAlike slots ((k, .null stop) :: es) es
  | within {es es' : List (String × Node)} (h : List.Forall₂ (MemberAlike slots) es es') :
      EntriesAlike slots es es'
  | symm {es es' : List (String × Node)} (h : EntriesAlike slots es es') :
      EntriesAlike slots es' es
  | trans {es es' es'' : List (String × Node)} (h : EntriesAlike slots es es')
      (h' : EntriesAlike slots es' es'') : EntriesAlike slots es es''

/-- Values for the first fields, in the order of the fields. -/
inductive NodesAlike : List Slot → List Node → List Node → Prop
  | nil (slots : List Slot) : NodesAlike slots [] []
  | cons {s : Slot} {slots : List Slot} {n n' : Node} {ns ns' : List Node} (head : s.Alike n n')
      (tail : NodesAlike slots ns ns') : NodesAlike (s :: slots) (n :: ns) (n' :: ns')

/-- Two records, both objects or both lists of their fields. -/
inductive RecordAlike (slots : List Slot) : Node → Node → Prop
  | object {start start' : Nat} {ms ms' : Members} {es es' : List (String × Node)}
      (left : ms.entries? = some es) (right : ms'.entries? = some es')
      (alike : EntriesAlike slots es es') :
      RecordAlike slots (.object start ms) (.object start' ms')
  | list {start start' : Nat} {items items' : Items} {ns ns' : List Node}
      (left : items.nodes? = some ns) (right : items'.nodes? = some ns')
      (alike : NodesAlike slots ns ns') :
      RecordAlike slots (.list start items) (.list start' items')

/-! Readers that tell no two alike values apart. -/

def Respects (read : Reader α) (R : Node → Node → Prop) : Prop :=
  ∀ n n', R n n' → read.result? n = read.result? n'

/-- Whatever is read is alike to itself. -/
def Covers (read : Reader α) (R : Node → Node → Prop) : Prop :=
  ∀ n a, read.result? n = some a → R n n

/-- The likeness is the reader's own. -/
structure Suits (read : Reader α) (R : Node → Node → Prop) : Prop where
  respects : Respects read R
  covers : Covers read R

theorem Respects.map {read : Reader α} {R : Node → Node → Prop} (h : Respects read R) (f : α → β) :
    Respects (fun n => (read n).map f) R := by
  intro n n' halike
  have hread := h n n' halike
  simp only [Reader.result?, toOption_map] at hread ⊢
  rw [hread]

theorem respects_asText : Respects Node.asText Leaf := by
  intro n n' h
  cases h with
  | flag => rfl
  | number => rfl
  | text s => cases s <;> rfl

theorem respects_asFlag : Respects Node.asFlag Leaf := by
  intro n n' h
  cases h <;> rfl

theorem respects_asWhole (low high : Int) (expected : String) :
    Respects (Node.asWhole low high expected) Leaf := by
  intro n n' h
  cases h with
  | flag => rfl
  | text => rfl
  | number x =>
    rcases x with f | n | x
    · rfl
    · by_cases hn : low ≤ n ∧ n < high
      · simp only [Reader.result?, Node.asWhole, if_pos hn]
      · simp only [Reader.result?, Node.asWhole, if_neg hn]
        rfl
    · rfl

theorem covers_asText : Covers Node.asText Leaf := by
  intro n s h
  cases n with
  | text => exact .text _ _ _
  | _ => cases h

theorem covers_asFlag : Covers Node.asFlag Leaf := by
  intro n b h
  cases n with
  | flag => exact .flag _ _ _
  | _ => cases h

theorem covers_asWhole (low high : Int) (expected : String) :
    Covers (Node.asWhole low high expected) Leaf := by
  intro n b h
  cases n with
  | number => exact .number _ _ _
  | _ => cases h

theorem Covers.map {read : Reader α} {R : Node → Node → Prop} (h : Covers read R) (f : α → β) :
    Covers (fun n => (read n).map f) R := by
  intro n b hb
  rw [Reader.result?, toOption_map] at hb
  obtain ⟨a, ha, -⟩ := Option.map_eq_some_iff.mp hb
  exact h n a ha

theorem result?_optional {read : Reader α} {n : Node} (h : ∀ i, n ≠ .null i) :
    Reader.result? (Node.optional read) n = (read.result? n).map some := by
  cases n with
  | null i => exact absurd rfl (h i)
  | _ => exact toOption_map _ some

variable {R : Node → Node → Prop} {read : Reader α} {schema : Schema α} {slots : List Slot}
  {es es' : List (String × Node)} {ns ns' : List Node} {seen seen' : List String} {record : α}
  {fields : List (RecordField α)} {k : String} {v : Node}

theorem Respects.optional (h : Respects read R) :
    Respects (Node.optional read) (OptionalAlike R) := by
  intro n n' halike
  unfold OptionalAlike at halike
  split at halike
  · rfl
  · cases halike
  · cases halike
  · rename_i hn hn' _
    rw [result?_optional hn, result?_optional hn', h _ _ halike]

theorem Covers.optional (h : Covers read R) : Covers (Node.optional read) (OptionalAlike R) := by
  intro n a ha
  cases n with
  | null i => trivial
  | _ =>
    rw [result?_optional (by simp)] at ha
    obtain ⟨b, hb, -⟩ := Option.map_eq_some_iff.mp ha
    exact h _ b hb

/-- Lists are read item by item. -/
theorem mapM_alike (h : Respects read R) (halike : List.Forall₂ R ns ns') :
    ns.mapM read.result? = ns'.mapM read.result? := by
  induction halike with
  | nil => rfl
  | cons hhead _ ih => rw [List.mapM_cons, List.mapM_cons, h _ _ hhead, ih]

theorem Respects.listOf (h : Respects read R) : Respects (Node.listOf read) (ListAlike R) := by
  intro n n' halike
  obtain ⟨left, right, halike⟩ := halike
  change (Items.readAll read _).toOption = (Items.readAll read _).toOption
  rw [toOption_readAll, toOption_readAll, left, right, Option.bind_some, Option.bind_some,
    mapM_alike h halike]

theorem forall₂_of_mapM (h : Covers read R) {as : List α} (has : ns.mapM read.result? = some as) :
    List.Forall₂ R ns ns := by
  induction ns generalizing as with
  | nil => exact .nil
  | cons n ns ih =>
    rw [List.mapM_cons] at has
    obtain ⟨a, ha, has⟩ := Option.bind_eq_some_iff.mp has
    obtain ⟨rest, hrest, -⟩ := Option.bind_eq_some_iff.mp has
    exact .cons (h n a ha) (ih hrest)

theorem Covers.listOf (h : Covers read R) : Covers (Node.listOf read) (ListAlike R) := by
  intro n as has
  cases n with
  | list start items =>
    change (items.readAll read).toOption = some as at has
    rw [toOption_readAll] at has
    obtain ⟨ns, hns, has⟩ := Option.bind_eq_some_iff.mp has
    exact .list hns hns (forall₂_of_mapM h has)
  | _ => cases has

/-! Records. -/

namespace RecordField

/-- The order in which the two fields are read makes no difference. -/
def Commutes (f g : RecordField α) : Prop :=
  ∀ n m c d, f.read.result? n = some c → g.read.result? m = some d → ∀ r, c (d r) = d (c r)

theorem Commutes.symm {f g : RecordField α} (h : f.Commutes g) : g.Commutes f :=
  fun n m c d hc hd r => (h m n d c hd hc r).symm

/-- The field is as the slot says. Null leaves the record blank. -/
structure Fits (blank : α) (f : RecordField α) (s : Slot) : Prop where
  key : f.key = s.key
  suits : Suits f.read s.Alike
  null : s.nullable = true →
    f.required = false ∧ ∀ stop, ∃ c, f.read.result? (.null stop) = some c ∧ c blank = blank

end RecordField

namespace Schema

/-- The fields of a record are those of the slots, and each has a place of its own. -/
structure Models (schema : Schema α) (slots : List Slot) : Prop where
  fits : List.Forall₂ (RecordField.Fits schema.blank) schema.fields slots
  apart : schema.fields.Pairwise RecordField.Commutes
  keys_nodup : (schema.fields.map (·.key)).Nodup

/-- A key belongs to a field and to the slot of that field, or to neither. -/
theorem find?_fits {blank : α} (h : List.Forall₂ (RecordField.Fits blank) fields slots)
    (k : String) :
    fields.find? (·.key = k) = none ∧ Slot.named? slots k = none ∨
      ∃ f s, fields.find? (·.key = k) = some f ∧ Slot.named? slots k = some s ∧
        f.Fits blank s := by
  unfold Slot.named?
  induction h with
  | nil => exact .inl ⟨rfl, rfl⟩
  | @cons f s fields slots hfits _ ih =>
    by_cases hk : f.key = k
    · have hk' : s.key = k := hfits.key ▸ hk
      exact .inr ⟨f, s, by simp [hk], by simp [hk'], hfits⟩
    · have hk' : ¬ s.key = k := hfits.key ▸ hk
      simpa [hk, hk'] using ih

theorem missing?_congr (h : ∀ k, seen.contains k = seen'.contains k) :
    schema.missing? seen = schema.missing? seen' := by
  simp only [missing?, h]

/-- Only which keys were seen counts, not in which order. -/
theorem readEntries_seen (h : ∀ k, seen.contains k = seen'.contains k)
    (es : List (String × Node)) :
    schema.readEntries seen record es = schema.readEntries seen' record es := by
  induction es generalizing seen seen' record with
  | nil => rw [readEntries, readEntries, missing?_congr h]
  | cons e es ih =>
    obtain ⟨k, v⟩ := e
    have hcons : ∀ k', (k :: seen).contains k' = (k :: seen').contains k' := by
      intro k'
      rw [List.contains_cons, List.contains_cons, h]
    simp only [readEntries, ih h, ih hcons, h]

theorem readEntries_unknown (hkey : schema.field? k = none) (hvalue : v.skipFault? = none) :
    schema.readEntries seen record ((k, v) :: es) = schema.readEntries seen record es := by
  simp [readEntries, hkey, hvalue]

theorem readEntries_known {f : RecordField α} (hkey : schema.field? k = some f) :
    schema.readEntries seen record ((k, v) :: es) =
      if seen.contains k then none
      else (f.read.result? v).bind fun c => schema.readEntries (k :: seen) (c record) es := by
  simp only [readEntries, hkey]

theorem readEntries_seen_mem {f : RecordField α} (hkey : schema.field? k = some f)
    (hseen : k ∈ seen) : schema.readEntries seen record ((k, v) :: es) = none := by
  rw [readEntries_known hkey, if_pos (List.contains_iff_mem.mpr hseen)]

theorem readEntries_skip (hkey : schema.field? k = none) :
    schema.readEntries seen record ((k, v) :: es) =
      if v.skipFault?.isSome then none else schema.readEntries seen record es := by
  simp only [readEntries, hkey]

/-- A member that is no field may trade places with any other. -/
theorem readEntries_skip_swap {k' : String} {v' : Node} (hkey : schema.field? k = none) :
    schema.readEntries seen record ((k, v) :: (k', v') :: es) =
      schema.readEntries seen record ((k', v') :: (k, v) :: es) := by
  rw [readEntries_skip hkey]
  cases hkey' : schema.field? k' with
  | none =>
    rw [readEntries_skip hkey', readEntries_skip hkey', readEntries_skip hkey]
    cases v.skipFault?.isSome <;> cases v'.skipFault?.isSome <;> rfl
  | some f =>
    rw [readEntries_known hkey', readEntries_known hkey']
    simp only [readEntries_skip hkey]
    cases v.skipFault?.isSome with
    | false => rfl
    | true => cases seen.contains k' <;> cases f.read.result? v' <;> rfl

theorem commutes_of_keys (hmodels : schema.Models slots) {f g : RecordField α}
    (hf : f ∈ schema.fields) (hg : g ∈ schema.fields) (hne : f.key ≠ g.key) : f.Commutes g := by
  have hsymm : Std.Symm (RecordField.Commutes (α := α)) := ⟨fun _ _ h => h.symm⟩
  exact hmodels.apart.forall hf hg fun h => hne (congrArg RecordField.key h)

/-- Two fields may trade places. -/
theorem readEntries_known_swap (hmodels : schema.Models slots) {k' : String} {v' : Node}
    {f g : RecordField α} (hf : schema.field? k = some f) (hg : schema.field? k' = some g) :
    schema.readEntries seen record ((k, v) :: (k', v') :: es) =
      schema.readEntries seen record ((k', v') :: (k, v) :: es) := by
  by_cases hk : k = k'
  -- Of two members with one key the second is refused, in either order.
  · subst hk
    rw [readEntries_known hf, readEntries_known hf]
    simp only [readEntries_seen_mem hf List.mem_cons_self]
    cases f.read.result? v <;> cases f.read.result? v' <;> rfl
  · have hfk : f.key = k := by simpa using List.find?_some hf
    have hgk : g.key = k' := by simpa using List.find?_some hg
    have hcommutes : f.Commutes g :=
      commutes_of_keys hmodels (List.mem_of_find?_eq_some hf) (List.mem_of_find?_eq_some hg)
        (by rwa [hfk, hgk])
    -- Else both are stored in places of their own, and only the order of what was seen differs.
    have hcontains : (k :: seen).contains k' = seen.contains k' := by simp [Ne.symm hk]
    have hcontains' : (k' :: seen).contains k = seen.contains k := by simp [hk]
    have hseen (l : List String) : ∀ j, (k' :: k :: l).contains j = (k :: k' :: l).contains j := by
      intro j
      simp only [List.contains_cons, Bool.or_left_comm]
    rw [readEntries_known hf, readEntries_known hg]
    simp only [readEntries_known hg, readEntries_known hf, hcontains, hcontains']
    cases hc : f.read.result? v with
    | none => cases seen.contains k <;> cases seen.contains k' <;> cases g.read.result? v' <;> rfl
    | some c =>
      cases hd : g.read.result? v' with
      | none => cases seen.contains k <;> cases seen.contains k' <;> rfl
      | some d =>
        simp only [Option.bind_some, hcommutes v v' c d hc hd record, readEntries_seen (hseen seen)]
        cases seen.contains k <;> cases seen.contains k' <;> rfl

theorem readEntries_swap (hmodels : schema.Models slots) (e e' : String × Node) :
    schema.readEntries seen record (e :: e' :: es) =
      schema.readEntries seen record (e' :: e :: es) := by
  obtain ⟨k, v⟩ := e
  obtain ⟨k', v'⟩ := e'
  cases hf : schema.field? k with
  | none => exact readEntries_skip_swap hf
  | some f =>
    cases hg : schema.field? k' with
    | none => exact (readEntries_skip_swap hg).symm
    | some g => exact readEntries_known_swap hmodels hf hg

/-- The order of the members makes no difference. -/
theorem readEntries_perm (hmodels : schema.Models slots) (h : es.Perm es') :
    schema.readEntries seen record es = schema.readEntries seen record es' := by
  induction h generalizing seen record with
  | nil => rfl
  | cons e _ ih =>
    obtain ⟨k, v⟩ := e
    simp only [readEntries, ih]
  | swap e e' es => exact readEntries_swap hmodels e' e
  | trans _ _ ih ih' => exact ih.trans ih'

/-- A value may change for one that is alike. -/
theorem readEntries_within (hmodels : schema.Models slots)
    (h : List.Forall₂ (MemberAlike slots) es es') :
    schema.readEntries seen record es = schema.readEntries seen record es' := by
  induction h generalizing seen record with
  | nil => rfl
  | @cons e e' es es' hhead _ ih =>
    obtain ⟨k, v⟩ := e
    obtain ⟨k', v'⟩ := e'
    obtain ⟨rfl, hknown, hunknown⟩ := hhead
    rcases find?_fits hmodels.fits k with ⟨hfield, hslot⟩ | ⟨f, s, hfield, hslot, hfits⟩
    · obtain ⟨hvalue, hvalue'⟩ := hunknown hslot
      rw [readEntries_unknown hfield hvalue, readEntries_unknown hfield hvalue', ih]
    · rw [readEntries_known hfield, readEntries_known hfield,
        hfits.suits.respects _ _ (hknown s hslot)]
      simp only [ih]

/-- A key that was seen is missed by no one, if its field need not be there and no member has it. -/
theorem readEntries_absent {f : RecordField α} (hnodup : (schema.fields.map (·.key)).Nodup)
    (hf : f ∈ schema.fields) (hrequired : f.required = false) (hkey : ∀ e ∈ es, e.1 ≠ f.key) :
    schema.readEntries (f.key :: seen) record es = schema.readEntries seen record es := by
  induction es generalizing seen record with
  | nil =>
    have hmissing : schema.missing? (f.key :: seen) = schema.missing? seen := by
      apply List.find?_congr
      intro g hg
      by_cases hk : g.key = f.key
      · rw [List.inj_on_of_nodup_map hnodup hg hf hk, hrequired]
        rfl
      · simp [hk]
    rw [readEntries, readEntries, hmissing]
  | cons e es ih =>
    obtain ⟨k, v⟩ := e
    rw [List.forall_mem_cons] at hkey
    have hcontains : (f.key :: seen).contains k = seen.contains k := by simp [hkey.1]
    have hswap : ∀ j, (k :: f.key :: seen).contains j = (f.key :: k :: seen).contains j := by
      intro j
      simp only [List.contains_cons, Bool.or_left_comm]
    simp only [readEntries, hcontains, ih hkey.2, readEntries_seen hswap]

/-- Null says the same as no member at all, where the field allows it. -/
theorem readEntries_null {s : Slot} {stop : Nat} (hmodels : schema.Models slots)
    (hslot : Slot.named? slots k = some s) (hnull : s.nullable = true)
    (hkey : ∀ e ∈ es, e.1 ≠ k) :
    schema.readEntries [] schema.blank ((k, .null stop) :: es) =
      schema.readEntries [] schema.blank es := by
  rcases find?_fits hmodels.fits k with ⟨-, hnone⟩ | ⟨f, s', hfield, hslot', hfits⟩
  · rw [hnone] at hslot
    cases hslot
  · rw [hslot] at hslot'
    cases hslot'
    obtain ⟨hrequired, hread⟩ := hfits.null hnull
    obtain ⟨c, hc, hblank⟩ := hread stop
    obtain rfl : f.key = k := by simpa using List.find?_some hfield
    rw [readEntries_known hfield, hc, Option.bind_some, hblank,
      readEntries_absent hmodels.keys_nodup (List.mem_of_find?_eq_some hfield) hrequired hkey]
    rfl

/-- Members that say the same are read as the same record. -/
theorem readEntries_alike (hmodels : schema.Models slots) (h : EntriesAlike slots es es') :
    schema.readEntries [] schema.blank es = schema.readEntries [] schema.blank es' := by
  induction h with
  | reordered h => exact readEntries_perm hmodels h
  | @unknown k v es hslot hvalue =>
    rcases find?_fits hmodels.fits k with ⟨hfield, -⟩ | ⟨f, s, -, hslot', -⟩
    · exact readEntries_unknown hfield hvalue
    · rw [hslot] at hslot'
      cases hslot'
  | absent stop hslot hnull hkey => exact readEntries_null hmodels hslot hnull hkey
  | within h => exact readEntries_within hmodels h
  | symm _ ih => exact ih.symm
  | trans _ _ ih ih' => exact ih.trans ih'

theorem readNodes_alike {blank : α} (h : NodesAlike slots ns ns')
    (hfits : List.Forall₂ (RecordField.Fits blank) fields slots) :
    readNodes record fields ns = readNodes record fields ns' := by
  induction h generalizing fields record with
  | nil => rfl
  | cons hhead _ ih =>
    cases hfits with
    | cons hfit hfits =>
      simp only [readNodes, hfit.suits.respects _ _ hhead, ih hfits]

/-- A reader of records does not tell records apart that are alike in what it reads. -/
theorem Models.respects (hmodels : schema.Models slots) :
    Respects schema.read (RecordAlike slots) := by
  intro n n' h
  cases h with
  | object left right halike =>
    change (schema.readMembers _ _ _).toOption = (schema.readMembers _ _ _).toOption
    rw [toOption_readMembers, toOption_readMembers, left, right, Option.bind_some,
      Option.bind_some, readEntries_alike hmodels halike]
  | list left right halike =>
    change (schema.readItems _ _ _ _).toOption = (schema.readItems _ _ _ _).toOption
    rw [toOption_readItems, toOption_readItems, left, right, Option.bind_some, Option.bind_some,
      readNodes_alike halike hmodels.fits]

/-- Values that were read are alike to themselves, each as its field demands. -/
theorem nodesAlike_of_readNodes {blank : α}
    (hfits : List.Forall₂ (RecordField.Fits blank) fields slots) {result : α}
    (h : readNodes record fields ns = some result) : NodesAlike slots ns ns := by
  induction hfits generalizing record ns with
  | nil =>
    cases ns with
    | nil => exact .nil _
    | cons n ns => cases h
  | cons hfit _ ih =>
    cases ns with
    | nil => exact .nil _
    | cons n ns =>
      obtain ⟨c, hc, h⟩ := Option.bind_eq_some_iff.mp h
      exact .cons (hfit.suits.covers n c hc) (ih h)

/-- What is read as a record is alike to itself as one. -/
theorem Models.covers (hmodels : schema.Models slots) :
    Covers schema.read (RecordAlike slots) := by
  intro n a h
  cases n with
  | object start ms =>
    change (schema.readMembers _ _ _).toOption = some a at h
    rw [toOption_readMembers] at h
    obtain ⟨es, hes, -⟩ := Option.bind_eq_some_iff.mp h
    exact .object hes hes (.reordered (.refl es))
  | list start items =>
    change (schema.readItems _ _ _ _).toOption = some a at h
    rw [toOption_readItems] at h
    obtain ⟨ns, hns, h⟩ := Option.bind_eq_some_iff.mp h
    exact .list hns hns (nodesAlike_of_readNodes hmodels.fits h)
  | _ => cases h

theorem Models.suits (hmodels : schema.Models slots) : Suits schema.read (RecordAlike slots) :=
  ⟨hmodels.respects, hmodels.covers⟩

end Schema

end BindingTables.Json

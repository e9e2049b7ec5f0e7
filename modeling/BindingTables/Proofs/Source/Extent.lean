import Mathlib.Data.Option.Basic
import BindingTables.Api.Reading
import BindingTables.Proofs.Source.Scalars

/-! Whatever is wrong with a JSON text, it is reported at an offset that the text has. -/

namespace BindingTables.Json

open BindingTables.Text

variable {α β : Type} {source cs rest : List Char} {i j n fuel : Nat} {f : Fault}

/-! The tree. -/

/-- If there is a fault it is within `n` bytes. -/
def FaultWithin (n : Nat) (result : Except Fault α) : Prop :=
  ∀ f, result = .error f → f.offset ≤ n

structure Faults.Within (n : Nat) (faults : Faults) : Prop where
  kept : faults.kept.offset ≤ n
  skipped : faults.skipped.offset ≤ n
  surplus : faults.surplus.offset ≤ n

mutual

/-- All offsets that a reader of the tree may report are within `n` bytes. -/
def Node.Within (n : Nat) : Node → Prop
  | .broken faults => faults.Within n
  | .null stop => stop ≤ n
  | .flag _ stop => stop ≤ n
  | .number x stop => FaultWithin n x ∧ stop ≤ n
  | .text s stop => FaultWithin n s ∧ stop ≤ n
  | .list start items => start ≤ n ∧ items.Within n
  | .object start members => start ≤ n ∧ members.Within n

def Items.Within (n : Nat) : Items → Prop
  | .close stop => stop ≤ n
  | .broken faults => faults.Within n
  | .cons start item rest => start + 1 ≤ n ∧ item.Within n ∧ rest.Within n

def Members.Within (n : Nat) : Members → Prop
  | .close stop => stop ≤ n
  | .broken faults => faults.Within n
  | .cons key settled value rest =>
    FaultWithin n key ∧ settled ≤ n ∧ value.Within n ∧ rest.Within n

end

theorem faultWithin_error (h : f.offset ≤ n) : FaultWithin (α := α) n (.error f) := by
  intro g hg
  cases hg
  exact h

theorem faultWithin_ok (a : α) : FaultWithin n (.ok a) := by
  intro g hg
  cases hg

theorem within_all (h : f.offset ≤ n) : (Faults.all f).Within n := ⟨h, h, h⟩

/-- Where reading stops for good, it stops within the source. -/
def Stops (source : List Char) (p : Progress) : Prop :=
  ∀ faults, p = .error faults → faults.Within (byteSize source)

theorem stops_ok (r : List Char × Nat) : Stops source (.ok r) := by
  intro faults h
  cases h

theorem stops_error {faults : Faults} (h : faults.Within (byteSize source)) :
    Stops source (.error faults) := by
  intro faults' h'
  cases h'
  exact h

/-- A text that is kept for later has its fault, if any, within the source. -/
theorem readText_ok {s : Except Fault String} (h : Passes source 0 cs i)
    (hread : readText cs i = .ok (s, rest, j)) : FaultWithin (byteSize source) s := by
  unfold readText at hread
  split at hread
  · cases hread
    exact faultWithin_ok _
  · rename_i hkeep _
    cases hread
    exact faultWithin_error (Nat.le_trans (offset_keepText hkeep) h.le_end)
  · cases hread
  · cases hread

theorem readText_error {faults : Faults} (h : Passes source 0 cs i)
    (hread : readText cs i = .error faults) : faults.Within (byteSize source) := by
  unfold readText at hread
  split at hread
  · cases hread
  · cases hread
  · rename_i hskip
    cases hread
    exact within_all (Nat.le_trans (offset_skipText hskip) h.le_end)
  · rename_i hkeep hskip
    cases hread
    have hkept := Nat.le_trans (offset_keepText hkeep) h.le_end
    exact ⟨hkept, Nat.le_trans (offset_skipText hskip) h.le_end, hkept⟩

/-- What was read stays within the source, and so does the place where reading stopped, if it
did. -/
structure StaysIn (source : List Char) (Within : Nat → α → Prop) (r : α × Progress) : Prop where
  tree : Within (byteSize source) r.1
  stops : Stops source r.2

theorem node_halt {faults : Faults} (h : faults.Within (byteSize source)) :
    StaysIn source Node.Within (halt faults) :=
  ⟨by simpa [halt, Node.Within] using h, stops_error h⟩

theorem items_halt {faults : Faults} (h : faults.Within (byteSize source)) :
    StaysIn source Items.Within (.broken faults, .error faults) :=
  ⟨by simpa [Items.Within] using h, stops_error h⟩

theorem members_halt {faults : Faults} (h : faults.Within (byteSize source)) :
    StaysIn source Members.Within (.broken faults, .error faults) :=
  ⟨by simpa [Members.Within] using h, stops_error h⟩

theorem items_close (h : Passes source 0 cs i) :
    StaysIn source Items.Within (.close i, .ok (cs, i)) :=
  ⟨by simpa [Items.Within] using h.le, stops_ok _⟩

theorem members_close (h : Passes source 0 cs i) :
    StaysIn source Members.Within (.close i, .ok (cs, i)) :=
  ⟨by simpa [Members.Within] using h.le, stops_ok _⟩

/-- A literal word is made of one-byte characters, so it is at fault at a byte of the source. -/
theorem node_word {word : List Char} {leaf : Nat → Node} (hword : ∀ w ∈ word, w.utf8Size = 1)
    (hleaf : ∀ stop ≤ byteSize source, (leaf stop).Within (byteSize source))
    (h : Passes source 0 cs i) : StaysIn source Node.Within (scalar (readWord word cs i) leaf) := by
  unfold scalar
  split
  · rename_i hread
    exact node_halt (within_all (Nat.le_trans (offset_readWord hread) h.le_end))
  · rename_i rest stop hread
    exact ⟨hleaf stop (h.trans (passes_readWord hword hread)).le, stops_ok _⟩

/-- A number is walked over whole even if its value is out of range. -/
theorem node_number (h : Passes source 0 cs i) : StaysIn source Node.Within (readNumber cs i) := by
  unfold readNumber
  split
  · rename_i hskip
    have hstop := (h.trans (passes_skipNumber hskip)).le
    exact ⟨by simpa [Node.Within] using ⟨faultWithin_ok _, hstop⟩, stops_ok _⟩
  · rename_i hkeep hskip
    have hstop := (h.trans (passes_skipNumber hskip)).le
    have hkept := faultWithin_error (α := Number) (Nat.le_trans (offset_keepNumber hkeep) h.le_end)
    exact ⟨by simpa [Node.Within] using ⟨hkept, hstop⟩, stops_ok _⟩
  · rename_i hskip
    exact node_halt (within_all (Nat.le_trans (offset_skipNumber hskip) h.le_end))
  · rename_i hkeep hskip
    have hkept := Nat.le_trans (offset_keepNumber hkeep) h.le_end
    exact node_halt ⟨hkept, Nat.le_trans (offset_skipNumber hskip) h.le_end, hkept⟩

/-- With this much fuel all readers stay within the source. -/
structure ReadsWithin (source : List Char) (fuel : Nat) : Prop where
  value : ∀ cs i, Passes source 0 cs i → StaysIn source Node.Within (readValue fuel cs i)
  items : ∀ cs i, Passes source 0 cs i → StaysIn source Items.Within (readItems fuel cs i)
  item : ∀ cs i, Passes source 0 cs i → skipBlanks cs i = (cs, i) → cs ≠ [] →
    StaysIn source Items.Within (readItem fuel cs i)
  moreItems : ∀ cs i, Passes source 0 cs i → StaysIn source Items.Within (readMoreItems fuel cs i)
  members : ∀ cs i, Passes source 0 cs i → StaysIn source Members.Within (readMembers fuel cs i)
  member : ∀ cs i, Passes source 0 cs i → StaysIn source Members.Within (readMember fuel cs i)
  moreMembers : ∀ cs i, Passes source 0 cs i →
    StaysIn source Members.Within (readMoreMembers fuel cs i)

/-- Without fuel every reader gives up where it stands. -/
theorem readsWithin_zero : ReadsWithin source 0 := by
  refine ⟨?_, ?_, ?_, ?_, ?_, ?_, ?_⟩
  · intro cs i h
    rw [readValue]
    exact node_halt (within_all h.le)
  · intro cs i h
    rw [readItems]
    exact items_halt (within_all h.le)
  · intro cs i h _ _
    rw [readItem]
    exact items_halt (within_all h.le)
  · intro cs i h
    rw [readMoreItems]
    exact items_halt (within_all h.le)
  · intro cs i h
    rw [readMembers]
    exact members_halt (within_all h.le)
  · intro cs i h
    rw [readMember]
    exact members_halt (within_all h.le)
  · intro cs i h
    rw [readMoreMembers]
    exact members_halt (within_all h.le)

theorem readsWithin_value (ih : ReadsWithin source fuel) (h : Passes source 0 cs i) :
    StaysIn source Node.Within (readValue (fuel + 1) cs i) := by
  have hat := h.trans (passes_skipBlanks cs i)
  have hflag (b : Bool) :
      ∀ stop ≤ byteSize source, (Node.flag b stop).Within (byteSize source) := by
    simp [Node.Within]
  rw [readValue]
  generalize skipBlanks cs i = ahead at hat ⊢
  split
  · exact node_halt (within_all hat.le)
  · exact node_word (by simp [Char.utf8Size]) (by simp [Node.Within])
      (hat.trans (passes_one rfl))
  · exact node_word (by simp [Char.utf8Size]) (hflag true) (hat.trans (passes_one rfl))
  · exact node_word (by simp [Char.utf8Size]) (hflag false) (hat.trans (passes_one rfl))
  · have hquote := hat.trans (passes_one rfl)
    split
    · rename_i hread
      exact node_halt (readText_error hquote hread)
    · rename_i s rest stop hread
      have hstop := (hquote.trans (passes_readText hread)).le
      exact ⟨by simpa [Node.Within] using ⟨readText_ok hquote hread, hstop⟩, stops_ok _⟩
  · have hitems := ih.items _ _ (hat.trans (passes_one rfl))
    exact ⟨by simpa [Node.Within] using ⟨hat.le, hitems.tree⟩, hitems.stops⟩
  · have hmembers := ih.members _ _ (hat.trans (passes_one rfl))
    exact ⟨by simpa [Node.Within] using ⟨hat.le, hmembers.tree⟩, hmembers.stops⟩
  · split
    · exact node_number hat
    · exact node_halt (within_all hat.succ_le)

theorem readsWithin_items (ih : ReadsWithin source fuel) (h : Passes source 0 cs i) :
    StaysIn source Items.Within (readItems (fuel + 1) cs i) := by
  have hat := h.trans (passes_skipBlanks cs i)
  have hblank := skipBlanks_skipBlanks cs i
  rw [readItems]
  generalize skipBlanks cs i = ahead at hat hblank ⊢
  split
  · exact items_halt (within_all hat.le)
  · exact items_close (hat.trans (passes_one rfl))
  · exact ih.item _ _ hat hblank (by simpa using ‹_›)

/-- An item starts where the blanks before it end, and takes at least one byte. -/
theorem readsWithin_item (ih : ReadsWithin source fuel) (h : Passes source 0 cs i)
    (hblank : skipBlanks cs i = (cs, i)) (hne : cs ≠ []) :
    StaysIn source Items.Within (readItem (fuel + 1) cs i) := by
  have hvalue := ih.value cs i h
  have hleft := ((readsPlaced source fuel).value cs i h).2
  have hstart : i + 1 ≤ byteSize source := by
    cases cs with
    | nil => exact absurd rfl hne
    | cons c cs => exact h.succ_le
  rw [readItem]
  split
  · rename_i item faults hread
    rw [hread] at hvalue
    have hfaults := hvalue.stops faults rfl
    exact ⟨by simpa [Items.Within] using ⟨hstart, hvalue.tree, hfaults⟩, stops_error hfaults⟩
  · rename_i item rest j hread
    rw [hread] at hvalue hleft
    have hmore := ih.moreItems rest j (hleft rest j rfl)
    exact ⟨by simpa [Items.Within] using ⟨hstart, hvalue.tree, hmore.tree⟩, hmore.stops⟩

/-- Behind a comma an item must follow: the list may not close there. -/
theorem readsWithin_moreItems (ih : ReadsWithin source fuel) (h : Passes source 0 cs i) :
    StaysIn source Items.Within (readMoreItems (fuel + 1) cs i) := by
  have hat := h.trans (passes_skipBlanks cs i)
  rw [readMoreItems]
  generalize skipBlanks cs i = ahead at hat ⊢
  split
  · exact items_halt (within_all hat.le)
  · exact items_close (hat.trans (passes_one rfl))
  · rename_i ds k
    have hnext := (hat.trans (passes_one rfl)).trans (passes_skipBlanks ds (k + 1))
    have hblank := skipBlanks_skipBlanks ds (k + 1)
    generalize skipBlanks ds (k + 1) = ahead at hnext hblank ⊢
    split
    · exact items_halt ⟨hnext.le, hnext.le, hnext.le⟩
    · exact items_halt ⟨hnext.succ_le, hnext.succ_le, hnext.succ_le⟩
    · exact ih.item _ _ hnext hblank (by simpa using ‹_›)
  · exact items_halt ⟨hat.succ_le, hat.succ_le, hat.succ_le⟩

theorem readsWithin_members (ih : ReadsWithin source fuel) (h : Passes source 0 cs i) :
    StaysIn source Members.Within (readMembers (fuel + 1) cs i) := by
  have hat := h.trans (passes_skipBlanks cs i)
  rw [readMembers]
  generalize skipBlanks cs i = ahead at hat ⊢
  split
  · exact members_halt (within_all hat.le)
  · exact members_close (hat.trans (passes_one rfl))
  · exact ih.member _ _ (hat.trans (passes_one rfl))
  · exact members_halt (within_all hat.succ_le)

/-- A key that no value follows. -/
theorem members_key {key : Except Fault String} {settled : Nat}
    (hkey : FaultWithin (byteSize source) key) (hsettled : settled ≤ byteSize source)
    (hf : f.offset ≤ byteSize source) :
    StaysIn source Members.Within
      (.cons key settled (.broken (.all f)) (.broken (.all f)), .error (.all f)) := by
  have hall := within_all hf
  exact ⟨by simpa [Members.Within, Node.Within] using ⟨hkey, hsettled, hall⟩,
    stops_error hall⟩

/-- A member is a key, a colon and a value, and each of them can be missing. -/
theorem readsWithin_member (ih : ReadsWithin source fuel) (h : Passes source 0 cs i) :
    StaysIn source Members.Within (readMember (fuel + 1) cs i) := by
  rw [readMember]
  split
  · rename_i hread
    exact members_halt (readText_error h hread)
  · rename_i key ds k hread
    have hkey := readText_ok h hread
    have hat := (h.trans (passes_readText hread)).trans (passes_skipBlanks ds k)
    generalize skipBlanks ds k = ahead at hat ⊢
    split
    · exact members_key hkey hat.le hat.le
    · exact members_key hkey hat.succ_le hat.succ_le
    · rename_i ds k
      have hcolon := hat.trans (passes_one (i := k) rfl)
      have hvalue := ih.value ds (k + 1) hcolon
      have hleft := ((readsPlaced source fuel).value ds (k + 1) hcolon).2
      split
      · rename_i value faults hread
        rw [hread] at hvalue
        have hfaults := hvalue.stops faults rfl
        exact ⟨by simpa [Members.Within] using ⟨hkey, hat.le, hvalue.tree, hfaults⟩,
          stops_error hfaults⟩
      · rename_i value rest j hread
        rw [hread] at hvalue hleft
        have hmore := ih.moreMembers rest j (hleft rest j rfl)
        exact ⟨by simpa [Members.Within] using ⟨hkey, hat.le, hvalue.tree, hmore.tree⟩,
          hmore.stops⟩
    · exact members_key hkey hat.le hat.succ_le

theorem readsWithin_moreMembers (ih : ReadsWithin source fuel) (h : Passes source 0 cs i) :
    StaysIn source Members.Within (readMoreMembers (fuel + 1) cs i) := by
  have hat := h.trans (passes_skipBlanks cs i)
  rw [readMoreMembers]
  generalize skipBlanks cs i = ahead at hat ⊢
  split
  · exact members_halt (within_all hat.le)
  · exact members_close (hat.trans (passes_one rfl))
  · rename_i ds k
    have hnext := (hat.trans (passes_one rfl)).trans (passes_skipBlanks ds (k + 1))
    generalize skipBlanks ds (k + 1) = ahead at hnext ⊢
    split
    · exact members_halt ⟨hnext.le, hnext.le, hnext.le⟩
    · exact ih.member _ _ (hnext.trans (passes_one rfl))
    · exact members_halt ⟨hnext.succ_le, hnext.succ_le, hnext.succ_le⟩
    · exact members_halt (within_all hnext.succ_le)
  · exact members_halt (within_all hat.succ_le)

/-- However much fuel there is, no reader reports a fault or a stop past the end of the source. -/
theorem readsWithin (source : List Char) (fuel : Nat) : ReadsWithin source fuel := by
  -- the readers call each other with less fuel, so they are taken together
  induction fuel with
  | zero => exact readsWithin_zero
  | succ fuel ih =>
    exact ⟨fun _ _ => readsWithin_value ih, fun _ _ => readsWithin_items ih,
      fun _ _ => readsWithin_item ih, fun _ _ => readsWithin_moreItems ih,
      fun _ _ => readsWithin_members ih, fun _ _ => readsWithin_member ih,
      fun _ _ => readsWithin_moreMembers ih⟩

structure Document.Within (n : Nat) (d : Document) : Prop where
  root : d.root.Within n
  trailing : ∀ f ∈ d.trailing, f.offset ≤ n

/-- The tree of a source keeps within it, and so does what trails the tree. -/
theorem within_ofChars (source : List Char) :
    (Document.ofChars source).Within (byteSize source) := by
  have hstart := passes_refl source 0
  have hvalue := (readsWithin source (3 * source.length + 3)).value source 0 hstart
  have hleft := ((readsPlaced source (3 * source.length + 3)).value source 0 hstart).2
  unfold Document.ofChars
  split
  · rename_i hread
    rw [hread] at hvalue
    exact ⟨hvalue.tree, by simp⟩
  · rename_i root rest i hread
    rw [hread] at hvalue hleft
    have hat := (hleft rest i rfl).trans (passes_skipBlanks rest i)
    generalize skipBlanks rest i = ahead at hat ⊢
    split
    · exact ⟨hvalue.tree, by simp⟩
    · exact ⟨hvalue.tree, by simpa using hat.succ_le⟩

/-! Typed reading. -/

/-- What the reader finds wrong with a tree is where the tree has it. -/
def Reader.StaysWithin (read : Reader α) : Prop :=
  ∀ n (node : Node), node.Within n → FaultWithin n (read node)

variable {read : Reader α} {node : Node}

theorem FaultWithin.map {x : Except Fault α} (h : FaultWithin n x) (g : α → β) :
    FaultWithin n (x.map g) := fun f hf => h f (error_of_map hf)

/-- A value of the wrong type is refused where it starts or ends, whichever the reader points at. -/
theorem faultWithin_refuse (h : node.Within n) (expected : String) :
    FaultWithin (α := α) n (.error (node.refuse expected)) := by
  apply faultWithin_error
  fun_cases Node.refuse expected node with
  | case1 faults => exact h.kept
  | case2 => exact h
  | case3 => exact h
  | case4 => exact h.1 _ rfl
  | case5 => exact h.2
  | case6 => exact h.1 _ rfl
  | case7 => exact h.2
  | case8 => exact h.1
  | case9 => exact h.1

theorem staysWithin_asText : Node.asText.StaysWithin := by
  intro n node h
  unfold Node.asText
  split
  · exact faultWithin_ok _
  · exact faultWithin_refuse h _

theorem staysWithin_asFlag : Node.asFlag.StaysWithin := by
  intro n node h
  unfold Node.asFlag
  split
  · exact faultWithin_ok _
  · exact faultWithin_refuse h _

/-- A number out of range is at fault where it ends. -/
theorem staysWithin_asWhole (low high : Int) (expected : String) :
    Reader.StaysWithin (Node.asWhole low high expected) := by
  intro n node h
  unfold Node.asWhole
  split
  · split
    · exact faultWithin_ok _
    · exact faultWithin_error h.2
  · exact faultWithin_refuse h _

theorem staysWithin_asUInt32 : Node.asUInt32.StaysWithin :=
  fun n node h => (staysWithin_asWhole _ _ _ n node h).map _

/-- An optional value is at fault where the value itself is. -/
theorem Reader.StaysWithin.optional (h : read.StaysWithin) :
    Reader.StaysWithin (Node.optional read) := by
  intro n node hnode
  unfold Node.optional
  split
  · exact faultWithin_ok _
  · exact (h n node hnode).map _

/-- The list is at fault where the first of its items is. -/
theorem faultWithin_readAll (h : read.StaysWithin) {items : Items} (hitems : items.Within n) :
    FaultWithin n (items.readAll read) := by
  fun_induction Items.readAll read items with
  | case1 => exact faultWithin_ok _
  | case2 => exact faultWithin_error hitems.kept
  | case3 start item rest g hread => exact faultWithin_error (h n item hitems.2.1 g hread)
  | case4 start item rest a hread ih => exact (ih hitems.2.2).map _

theorem Reader.StaysWithin.listOf (h : read.StaysWithin) :
    Reader.StaysWithin (Node.listOf read) := by
  intro n node hnode
  unfold Node.listOf
  split
  · exact faultWithin_readAll h hnode.2
  · exact faultWithin_refuse hnode _

mutual

/-- What is skipped is not read, but the faults in it still count. -/
theorem Node.offset_skipFault? : (node : Node) → node.Within n → node.skipFault? = some f →
    f.offset ≤ n
  | .broken faults, h, hf => by
    cases hf
    exact h.skipped
  | .list _ items, h, hf => items.offset_skipFault? h.2 hf
  | .object _ members, h, hf => members.offset_skipFault? h.2 hf

theorem Items.offset_skipFault? : (items : Items) → items.Within n → items.skipFault? = some f →
    f.offset ≤ n
  | .broken faults, h, hf => by
    cases hf
    exact h.skipped
  | .cons _ item rest, h, hf => by
    rw [Items.skipFault?, Option.orElse_eq_some] at hf
    rcases hf with hitem | ⟨-, hrest⟩
    · exact item.offset_skipFault? h.2.1 hitem
    · exact rest.offset_skipFault? h.2.2 hrest

theorem Members.offset_skipFault? : (members : Members) → members.Within n →
    members.skipFault? = some f → f.offset ≤ n
  | .broken faults, h, hf => by
    cases hf
    exact h.skipped
  | .cons _ _ value rest, h, hf => by
    rw [Members.skipFault?, Option.orElse_eq_some] at hf
    rcases hf with hvalue | ⟨-, hrest⟩
    · exact value.offset_skipFault? h.2.2.1 hvalue
    · exact rest.offset_skipFault? h.2.2.2 hrest

end

namespace Schema

variable {schema : Schema α} {record : α} {fields : List (RecordField α)} {seen : List String}

/-- Unknown members are walked over, known ones are read, and a key that comes twice is refused. -/
theorem faultWithin_readMembers (h : ∀ f ∈ schema.fields, f.read.StaysWithin) {members : Members}
    (hmembers : members.Within n) : FaultWithin n (schema.readMembers seen record members) := by
  fun_induction schema.readMembers seen record members with
  | case1 => exact faultWithin_error hmembers
  | case2 => exact faultWithin_ok _
  | case3 => exact faultWithin_error hmembers.kept
  | case4 => exact faultWithin_error (hmembers.1 _ rfl)
  | case5 seen record key settled value rest hfield g hskip =>
    exact faultWithin_error (value.offset_skipFault? hmembers.2.2.1 hskip)
  | case6 seen record key settled value rest hfield hskip ih => exact ih hmembers.2.2.2
  | case7 => exact faultWithin_error hmembers.2.1
  | case8 seen record key settled value rest field hfield hnew g hread =>
    have hwithin := h field (List.mem_of_find?_eq_some hfield) n value hmembers.2.2.1
    exact faultWithin_error (hwithin g hread)
  | case9 seen record key settled value rest field hfield hnew change hread ih =>
    exact ih hmembers.2.2.2

/-- A record written as a list takes its fields by position. -/
theorem faultWithin_readItems (h : ∀ f ∈ fields, f.read.StaysWithin) {taken : Nat} {items : Items}
    (hitems : items.Within n) : FaultWithin n (schema.readItems taken record fields items) := by
  fun_induction schema.readItems taken record fields items with
  | case1 => exact faultWithin_ok _
  | case2 => exact faultWithin_error hitems.surplus
  | case3 => exact faultWithin_error hitems.1
  | case4 => exact faultWithin_error hitems
  | case5 taken record field fields stop hrequired ih =>
    rw [List.forall_mem_cons] at h
    exact ih h.2 hitems
  | case6 => exact faultWithin_error hitems.kept
  | case7 taken record field fields start item rest g hread =>
    rw [List.forall_mem_cons] at h
    exact faultWithin_error (h.1 n item hitems.2.1 g hread)
  | case8 taken record field fields start item rest change hread ih =>
    rw [List.forall_mem_cons] at h
    exact ih h.2 hitems.2.2

/-- A record stays within the tree if its fields do. -/
theorem staysWithin_read (h : ∀ f ∈ schema.fields, f.read.StaysWithin) :
    schema.read.StaysWithin := by
  intro n node hnode
  unfold Schema.read
  split
  · exact faultWithin_readMembers h hnode.2
  · exact faultWithin_readItems h hnode.2
  · exact faultWithin_refuse hnode _

end Schema

theorem Reader.StaysWithin.ofReader {read : Reader β} (h : read.StaysWithin) {key : String}
    {required : Bool} {store : β → α → α} :
    (RecordField.ofReader key required read store).read.StaysWithin :=
  fun n node hnode => (h n node hnode).map _

/-- The error is placed at an offset that the source has. -/
def ReadError.IsIn (source : List Char) (e : ReadError) : Prop :=
  ∃ offset ≤ byteSize source, e.place = some (.ofOffset source offset)

/-- A text that is refused has its fault at an offset of its own. -/
theorem isIn_of_readText? (h : read.StaysWithin) {text : String} {e : ReadError}
    (herr : readText? read text = .error e) : e.IsIn text.toList := by
  have hdocument := within_ofChars text.toList
  unfold readText? at herr
  dsimp only at herr
  split at herr
  · rename_i f hread
    cases herr
    exact ⟨f.offset, h _ _ hdocument.root f hread, rfl⟩
  · rename_i f _ htrailing
    cases herr
    exact ⟨f.offset, hdocument.trailing f htrailing, rfl⟩
  · cases herr

end BindingTables.Json

namespace BindingTables

open BindingTables.Json

/-! Dumps. -/

section Fields

variable {α β : Type} {key : String}

@[simp]
theorem staysWithin_textField {store : String → α → α} :
    (textField key store).read.StaysWithin := staysWithin_asText.ofReader

@[simp]
theorem staysWithin_flagField {store : Bool → α → α} :
    (flagField key store).read.StaysWithin := staysWithin_asFlag.ofReader

@[simp]
theorem staysWithin_optionalText {store : Option String → α → α} :
    (optionalText key store).read.StaysWithin := staysWithin_asText.optional.ofReader

@[simp]
theorem staysWithin_listField {schema : Schema β} {store : List β → α → α}
    (h : schema.read.StaysWithin) : (listField key schema store).read.StaysWithin :=
  h.listOf.ofReader

end Fields

@[simp]
theorem Argument.staysWithin : schema.read.StaysWithin :=
  Schema.staysWithin_read (by simp [schema])

theorem returnValue_staysWithin : returnValueSchema.read.StaysWithin :=
  Schema.staysWithin_read (by simp [returnValueSchema])

@[simp]
theorem Method.staysWithin : schema.read.StaysWithin :=
  Schema.staysWithin_read (by simp [schema, returnValue_staysWithin.optional.ofReader])

@[simp]
theorem Operator.staysWithin : schema.read.StaysWithin :=
  Schema.staysWithin_read (by simp [schema])

@[simp]
theorem Property.staysWithin : schema.read.StaysWithin :=
  Schema.staysWithin_read (by simp [schema, staysWithin_asText.ofReader])

@[simp]
theorem EnumValue.staysWithin : schema.read.StaysWithin :=
  Schema.staysWithin_read (by simp [schema, Node.asInt64, (staysWithin_asWhole _ _ _).ofReader])

@[simp]
theorem Enum.staysWithin : schema.read.StaysWithin := Schema.staysWithin_read (by simp [schema])

@[simp]
theorem Class.staysWithin : schema.read.StaysWithin := Schema.staysWithin_read (by simp [schema])

@[simp]
theorem Singleton.staysWithin : schema.read.StaysWithin :=
  Schema.staysWithin_read (by simp [schema])

@[simp]
theorem UtilityFunction.staysWithin : schema.read.StaysWithin :=
  Schema.staysWithin_read (by simp [schema])

theorem Header.staysWithin : schema.read.StaysWithin :=
  Schema.staysWithin_read (by simp [schema, staysWithin_asUInt32.ofReader])

namespace Api

theorem staysWithin : schema.read.StaysWithin :=
  Schema.staysWithin_read (by simp [schema, Header.staysWithin.optional.ofReader])

/-- A dump that cannot be read has its fault at a place that is in its text. -/
theorem isIn_of_ofJson {text : String} {e : ReadError} (h : ofJson text = .error e) :
    e.IsIn text.toList := isIn_of_readText? staysWithin h

end Api

end BindingTables

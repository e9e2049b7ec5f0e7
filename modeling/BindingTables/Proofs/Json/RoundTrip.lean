import BindingTables.Proofs.Json.Layout

/-! A value is read from each of its written forms as itself. -/

namespace BindingTables.Json

mutual

/-- What a node says, wherever it stands. -/
def Node.value? : Node → Option Value
  | .null _ => some .null
  | .flag b _ => some (.flag b)
  | .number (.ok (.whole n)) _ => some (.whole n)
  | .text (.ok s) _ => some (.text s)
  | .list _ items => items.values?.map .list
  | .object _ members => members.values?.map .object
  | _ => none

def Items.values? : Items → Option (List Value)
  | .close _ => some []
  | .broken _ => none
  | .cons _ item rest =>
    match item.value?, rest.values? with
    | some v, some vs => some (v :: vs)
    | _, _ => none

def Members.values? : Members → Option (List (String × Value))
  | .close _ => some []
  | .cons (.ok key) _ value rest =>
    match value.value?, rest.values? with
    | some v, some vs => some ((key, v) :: vs)
    | _, _ => none
  | _ => none

end

/-- The value of a text that is one JSON value. -/
def Value.parse? (source : String) : Option Value :=
  match Document.ofChars source.toList with
  | ⟨root, none⟩ => root.value?
  | ⟨_, some _⟩ => none

variable {cs rest gap : List Char} {i j fuel : Nat} {c : Char} {v : Value}

/-! Single steps of the readers. -/

theorem skipBlanks_append (h : ∀ c ∈ gap, isBlank c = true) (cs : List Char) (i : Nat) :
    skipBlanks (gap ++ cs) i = skipBlanks cs (i + gap.length) := by
  induction gap generalizing i with
  | nil => rfl
  | cons c gap ih =>
    rw [List.forall_mem_cons] at h
    rw [List.cons_append, skipBlanks, if_pos h.1, ih h.2, List.length_cons, Nat.add_right_comm,
      Nat.add_assoc]

theorem skipBlanks_cons (h : isBlank c = false) : skipBlanks (c :: cs) i = (c :: cs, i) := by
  rw [skipBlanks, if_neg (by simp [h])]

/-- Blanks end where something else starts. -/
theorem skipBlanks_gap (hgap : ∀ c ∈ gap, isBlank c = true) (h : isBlank c = false) :
    skipBlanks (gap ++ c :: cs) i = (c :: cs, i + gap.length) := by
  rw [skipBlanks_append hgap, skipBlanks_cons h]

theorem readValue_gap (hgap : ∀ c ∈ gap, isBlank c = true) :
    readValue (fuel + 1) (gap ++ cs) i = readValue (fuel + 1) cs (i + gap.length) := by
  rw [readValue, readValue, skipBlanks_append hgap]

theorem isBlank_of_isDigit (h : c = '-' ∨ isDigit c = true) : isBlank c = false := by
  rw [Bool.eq_false_iff]
  intro hblank
  simp only [isBlank, Bool.or_eq_true, decide_eq_true_eq] at hblank
  rcases hblank with ((rfl | rfl) | rfl) | rfl <;> revert h <;> decide

theorem readValue_number (h : c = '-' ∨ isDigit c = true) :
    readValue (fuel + 1) (c :: cs) i = readNumber (c :: cs) i := by
  rw [readValue, skipBlanks_cons (isBlank_of_isDigit h)]
  split
  all_goals rename_i heq; cases heq
  all_goals try exact absurd h (by decide)
  exact if_pos h

/-- A list that does not close at once reads an item, whatever blanks come first. -/
theorem readItems_gap (hgap : ∀ c ∈ gap, isBlank c = true) (h : isBlank c = false)
    (hclose : c ≠ ']') :
    readItems (fuel + 1) (gap ++ c :: cs) i = readItem fuel (c :: cs) (i + gap.length) := by
  rw [readItems, skipBlanks_gap hgap h]
  split
  all_goals rename_i heq; cases heq
  · exact absurd rfl hclose
  · rfl

theorem readMoreItems_close (hgap : ∀ c ∈ gap, isBlank c = true) :
    readMoreItems (fuel + 1) (gap ++ ']' :: cs) i =
      (.close (i + gap.length + 1), .ok (cs, i + gap.length + 1)) := by
  rw [readMoreItems, skipBlanks_gap hgap rfl]
  rfl

theorem readMoreItems_comma (hgap : ∀ c ∈ gap, isBlank c = true) (h : isBlank c = false)
    (hclose : c ≠ ']') :
    readMoreItems (fuel + 1) (',' :: (gap ++ c :: cs)) i =
      readItem fuel (c :: cs) (i + 1 + gap.length) := by
  have hcomma : skipBlanks (',' :: (gap ++ c :: cs)) i = (',' :: (gap ++ c :: cs), i) := rfl
  simp only [readMoreItems, hcomma, skipBlanks_gap hgap h]
  split
  all_goals rename_i heq; cases heq
  · exact absurd rfl hclose
  · rfl

theorem readMembers_gap (hgap : ∀ c ∈ gap, isBlank c = true) :
    readMembers (fuel + 1) (gap ++ '"' :: cs) i = readMember fuel cs (i + gap.length + 1) := by
  rw [readMembers, skipBlanks_gap hgap rfl]
  rfl

theorem readMoreMembers_close (hgap : ∀ c ∈ gap, isBlank c = true) :
    readMoreMembers (fuel + 1) (gap ++ '}' :: cs) i =
      (.close (i + gap.length + 1), .ok (cs, i + gap.length + 1)) := by
  rw [readMoreMembers, skipBlanks_gap hgap rfl]
  rfl

theorem readMoreMembers_comma (hgap : ∀ c ∈ gap, isBlank c = true) :
    readMoreMembers (fuel + 1) (',' :: (gap ++ '"' :: cs)) i =
      readMember fuel cs (i + 1 + gap.length + 1) := by
  have hcomma : skipBlanks (',' :: (gap ++ '"' :: cs)) i = (',' :: (gap ++ '"' :: cs), i) := rfl
  have hquote : isBlank '"' = false := rfl
  simp only [readMoreMembers, hcomma, skipBlanks_gap hgap hquote]

/-- A key is read up to its colon. -/
theorem readMember_key (fuel : Nat) (k : String) (cs : List Char) (i : Nat) : ∃ j,
    readMember (fuel + 1) (k.toList.flatMap escapedChar ++ '"' :: ':' :: cs) i =
      match readValue fuel cs (j + 1) with
      | (value, .error faults) => (.cons (.ok k) j value (.broken faults), .error faults)
      | (value, .ok (cs, stop)) => (.cons (.ok k) j value (readMoreMembers fuel cs stop).1,
          (readMoreMembers fuel cs stop).2) := by
  obtain ⟨j, hkey⟩ := readText_flatMap k (':' :: cs) i
  refine ⟨j, ?_⟩
  have hcolon : skipBlanks (':' :: cs) j = (':' :: cs, j) := rfl
  rcases hvalue : readValue fuel cs (j + 1) with ⟨n, faults | ⟨rest, stop⟩⟩ <;>
    simp only [readMember, hkey, hcolon, hvalue]

/-! Reading what was written. -/

/-- The reader came to something that says `b`, and left `rest`. -/
def Reads {α β : Type} (tells : α → Option β) (out : α × Progress) (b : β) (rest : List Char) :
    Prop :=
  tells out.1 = some b ∧ ∃ stop, out.2 = .ok (rest, stop)

/-- An item is read, and the others behind it. -/
theorem reads_item {vs : List Value} {left : List Char}
    (h : Reads Node.value? (readValue fuel cs i) v rest)
    (hmore : ∀ j, Reads Items.values? (readMoreItems fuel rest j) vs left) :
    Reads Items.values? (readItem (fuel + 1) cs i) (v :: vs) left := by
  rcases hvalue : readValue fuel cs i with ⟨n, progress⟩
  rw [hvalue] at h
  obtain ⟨htells, stop, rfl⟩ := h
  obtain ⟨htells', hleft⟩ := hmore stop
  simp only [Reads, readItem, hvalue, Items.values?, htells, htells', true_and]
  exact hleft

theorem reads_member {ms : List (String × Value)} {left : List Char} (k : String)
    (h : ∀ j, Reads Node.value? (readValue fuel cs j) v rest)
    (hmore : ∀ j, Reads Members.values? (readMoreMembers fuel rest j) ms left) :
    Reads Members.values?
      (readMember (fuel + 1) (k.toList.flatMap escapedChar ++ '"' :: ':' :: cs) i)
      ((k, v) :: ms) left := by
  obtain ⟨j, hmember⟩ := readMember_key fuel k cs i
  rcases hvalue : readValue fuel cs (j + 1) with ⟨n, progress⟩
  have h := h (j + 1)
  rw [hvalue] at h
  obtain ⟨htells, stop, rfl⟩ := h
  obtain ⟨htells', hleft⟩ := hmore stop
  simp only [Reads, hmember, hvalue, Members.values?, htells, htells', true_and]
  exact hleft

theorem reads_list {vs : List Value}
    (h : Reads Items.values? (readItems fuel cs (i + 1)) vs rest) :
    Reads Node.value? (readValue (fuel + 1) ('[' :: cs) i) (.list vs) rest := by
  obtain ⟨htells, hleft⟩ := h
  rw [readValue, skipBlanks_cons rfl]
  exact ⟨congrArg (Option.map Value.list) htells, hleft⟩

theorem reads_object {ms : List (String × Value)}
    (h : Reads Members.values? (readMembers fuel cs (i + 1)) ms rest) :
    Reads Node.value? (readValue (fuel + 1) ('{' :: cs) i) (.object ms) rest := by
  obtain ⟨htells, hleft⟩ := h
  rw [readValue, skipBlanks_cons rfl]
  exact ⟨congrArg (Option.map Value.object) htells, hleft⟩

theorem reads_gap (hgap : ∀ c ∈ gap, isBlank c = true)
    (h : ∀ j, Reads Node.value? (readValue fuel cs j) v rest) (i : Nat) :
    Reads Node.value? (readValue fuel (gap ++ cs) i) v rest := by
  cases fuel with
  | zero =>
    obtain ⟨htells, -⟩ := h i
    rw [readValue] at htells
    cases htells
  | succ fuel =>
    rw [readValue_gap hgap]
    exact h _

theorem reads_null (rest : List Char) (i : Nat) :
    Reads Node.value? (readValue (fuel + 1) ('n' :: 'u' :: 'l' :: 'l' :: rest) i) .null rest := by
  rw [readValue, skipBlanks_cons rfl]
  exact ⟨rfl, _, rfl⟩

theorem reads_true (rest : List Char) (i : Nat) :
    Reads Node.value? (readValue (fuel + 1) ('t' :: 'r' :: 'u' :: 'e' :: rest) i) (.flag true)
      rest := by
  rw [readValue, skipBlanks_cons rfl]
  exact ⟨rfl, _, rfl⟩

theorem reads_false (rest : List Char) (i : Nat) :
    Reads Node.value? (readValue (fuel + 1) ('f' :: 'a' :: 'l' :: 's' :: 'e' :: rest) i)
      (.flag false) rest := by
  rw [readValue, skipBlanks_cons rfl]
  exact ⟨rfl, _, rfl⟩

/-- A literal is read as the text that it was written for. -/
theorem reads_text (s : String) (rest : List Char) (i : Nat) :
    Reads Node.value? (readValue (fuel + 1) (literal s ++ rest) i) (.text s) rest := by
  obtain ⟨j, hread⟩ := readText_flatMap s rest (i + 1)
  have hquote (cs : List Char) : skipBlanks ('"' :: cs) i = ('"' :: cs, i) := rfl
  simp only [Reads, literal, List.cons_append, List.append_assoc, List.nil_append, readValue,
    hquote, hread]
  exact ⟨rfl, j, rfl⟩

/-- A whole number ends where something else than a digit follows. -/
theorem reads_whole {n : Int} (hn : Exact n) (hrest : Ends rest) (i : Nat) :
    Reads Node.value? (readValue (fuel + 1) (wholeDigits n ++ rest) i) (.whole n) rest := by
  obtain ⟨c, ds, hds, hc⟩ := wholeDigits_head n
  obtain ⟨stop, hread⟩ := readNumber_wholeDigits hn hrest i
  rw [hds, List.cons_append] at hread ⊢
  rw [readValue_number hc, hread]
  exact ⟨rfl, stop, rfl⟩

namespace Value

mutual

/-- All whole numbers of the value are read without loss. -/
def Exact : Value → Prop
  | whole n => Json.Exact n
  | list items => ItemsExact items
  | object members => MembersExact members
  | _ => True

def ItemsExact : List Value → Prop
  | [] => True
  | x :: xs => x.Exact ∧ ItemsExact xs

def MembersExact : List (String × Value) → Prop
  | [] => True
  | (_, x) :: ms => x.Exact ∧ MembersExact ms

end

variable {l : Layout}

/-- Neither a blank nor a closing bracket stands at the head of a value. -/
theorem write_head (v : Value) (depth : Nat) :
    ∃ c cs, v.write l depth = c :: cs ∧ isBlank c = false ∧ c ≠ ']' := by
  cases v with
  | null => exact ⟨_, _, rfl, rfl, by decide⟩
  | flag b => cases b <;> exact ⟨_, _, rfl, rfl, by decide⟩
  | whole n =>
    obtain ⟨c, ds, hds, hc⟩ := wholeDigits_head n
    refine ⟨c, ds, hds, isBlank_of_isDigit hc, ?_⟩
    rintro rfl
    exact absurd hc (by decide)
  | text s => exact ⟨_, _, rfl, rfl, by decide⟩
  | list items => cases items <;> exact ⟨_, _, rfl, rfl, by decide⟩
  | object members => cases members <;> exact ⟨_, _, rfl, rfl, by decide⟩

theorem readItems_write (x : Value) (d depth : Nat) (cs : List Char) (i : Nat) :
    readItems (fuel + 1) (l.gap d ++ (x.write l depth ++ cs)) i =
      readItem fuel (x.write l depth ++ cs) (i + (l.gap d).length) := by
  obtain ⟨c, ds, hds, hblank, hclose⟩ := write_head (l := l) x depth
  rw [hds, List.cons_append, readItems_gap (l.blank_gap d) hblank hclose]

theorem readMoreItems_write (x : Value) (d depth : Nat) (cs : List Char) (i : Nat) :
    readMoreItems (fuel + 1) (',' :: (l.gap d ++ (x.write l depth ++ cs))) i =
      readItem fuel (x.write l depth ++ cs) (i + 1 + (l.gap d).length) := by
  obtain ⟨c, ds, hds, hblank, hclose⟩ := write_head (l := l) x depth
  rw [hds, List.cons_append, readMoreItems_comma (l.blank_gap d) hblank hclose]

theorem ends_gap (hgap : ∀ c ∈ gap, isBlank c = true) (h : Ends (c :: cs)) :
    Ends (gap ++ c :: cs) := by
  cases gap with
  | nil => exact h
  | cons d gap =>
    intro e he
    obtain rfl : d = e := by simpa using he
    have hblank := hgap d (by simp)
    simp only [isBlank, Bool.or_eq_true, decide_eq_true_eq] at hblank
    rcases hblank with ((rfl | rfl) | rfl) | rfl <;> decide

/-- Behind a value stands a comma or a bracket. -/
theorem ends_of_eq (h : c = ',' ∨ c = ']' ∨ c = '}') : Ends (c :: cs) := by
  intro d hd
  obtain rfl : c = d := by simpa using hd
  rcases h with rfl | rfl | rfl <;> decide

theorem ends_writeItems (xs : List Value) (depth : Nat) (rest : List Char) :
    Ends (writeItems l depth xs ++ rest) := by
  cases xs with
  | nil =>
    rw [writeItems, List.append_assoc]
    exact ends_gap (l.blank_gap depth) (ends_of_eq (by simp))
  | cons x xs =>
    rw [writeItems]
    exact ends_of_eq (by simp)

theorem ends_writeMembers (ms : List (String × Value)) (depth : Nat) (rest : List Char) :
    Ends (writeMembers l depth ms ++ rest) := by
  cases ms with
  | nil =>
    rw [writeMembers, List.append_assoc]
    exact ends_gap (l.blank_gap depth) (ends_of_eq (by simp))
  | cons m ms =>
    rw [writeMembers]
    exact ends_of_eq (by simp)

mutual

/-- A written value is read as itself, whatever follows it that is no part of a number. -/
theorem reads_write (v : Value) (hv : v.Exact) (depth : Nat) (rest : List Char)
    (hrest : Ends rest) (fuel : Nat) (hfuel : 3 * (v.write l depth).length ≤ fuel) (i : Nat) :
    Reads Node.value? (readValue fuel (v.write l depth ++ rest) i) v rest := by
  -- A character pays for three steps of the readers, and there is one at least.
  have hpos : 0 < (v.write l depth).length := by
    obtain ⟨c, cs, hcs, -⟩ := write_head (l := l) v depth
    simp [hcs]
  obtain ⟨fuel, rfl⟩ := Nat.exists_eq_add_of_le' (show 3 ≤ fuel by omega)
  cases v with
  | null => exact reads_null rest i
  | flag b =>
    cases b with
    | false => exact reads_false rest i
    | true => exact reads_true rest i
  | whole n => exact reads_whole hv hrest i
  | text s => exact reads_text s rest i
  | list items =>
    cases items with
    | nil =>
      rw [write, List.cons_append]
      apply reads_list
      rw [List.singleton_append, readItems, skipBlanks_cons rfl]
      exact ⟨rfl, _, rfl⟩
    | cons x xs =>
      simp only [write, List.length_cons, List.length_append] at hfuel
      simp only [write, List.cons_append, List.append_assoc]
      apply reads_list
      rw [readItems_write]
      exact reads_item
        (reads_write x hv.1 _ _ (ends_writeItems xs depth rest) _ (by omega) _)
        (reads_writeItems xs hv.2 depth rest _ (by omega))
  | object members =>
    cases members with
    | nil =>
      rw [write, List.cons_append]
      apply reads_object
      rw [List.singleton_append, readMembers, skipBlanks_cons rfl]
      exact ⟨rfl, _, rfl⟩
    | cons m ms =>
      obtain ⟨k, x⟩ := m
      simp only [write, literal, List.length_cons, List.length_append] at hfuel
      simp only [write, literal, List.cons_append, List.append_assoc, List.nil_append]
      apply reads_object
      rw [readMembers_gap (l.blank_gap _)]
      refine reads_member k (fun j => reads_gap l.blank_pad (fun j => ?_) _)
        (reads_writeMembers ms hv.2 depth rest _ (by omega))
      exact reads_write x hv.1 _ _ (ends_writeMembers ms depth rest) _ (by omega) _

theorem reads_writeItems (xs : List Value) (hxs : ItemsExact xs) (depth : Nat)
    (rest : List Char) (fuel : Nat) (hfuel : 3 * (writeItems l depth xs).length ≤ fuel) (i : Nat) :
    Reads Items.values? (readMoreItems fuel (writeItems l depth xs ++ rest) i) xs rest := by
  have hpos : 0 < (writeItems l depth xs).length := by cases xs <;> simp [writeItems]
  obtain ⟨fuel, rfl⟩ := Nat.exists_eq_add_of_le' (show 2 ≤ fuel by omega)
  cases xs with
  | nil =>
    rw [writeItems, List.append_assoc, List.singleton_append,
      readMoreItems_close (l.blank_gap depth)]
    exact ⟨rfl, _, rfl⟩
  | cons x xs =>
    simp only [writeItems, List.length_cons, List.length_append] at hfuel
    simp only [writeItems, List.cons_append, List.append_assoc]
    rw [readMoreItems_write]
    exact reads_item
      (reads_write x hxs.1 _ _ (ends_writeItems xs depth rest) _ (by omega) _)
      (reads_writeItems xs hxs.2 depth rest _ (by omega))

theorem reads_writeMembers (ms : List (String × Value)) (hms : MembersExact ms) (depth : Nat)
    (rest : List Char) (fuel : Nat) (hfuel : 3 * (writeMembers l depth ms).length ≤ fuel)
    (i : Nat) :
    Reads Members.values? (readMoreMembers fuel (writeMembers l depth ms ++ rest) i) ms rest := by
  have hpos : 0 < (writeMembers l depth ms).length := by cases ms <;> simp [writeMembers]
  obtain ⟨fuel, rfl⟩ := Nat.exists_eq_add_of_le' (show 3 ≤ fuel by omega)
  cases ms with
  | nil =>
    rw [writeMembers, List.append_assoc, List.singleton_append,
      readMoreMembers_close (l.blank_gap depth)]
    exact ⟨rfl, _, rfl⟩
  | cons m ms =>
    obtain ⟨k, x⟩ := m
    simp only [writeMembers, literal, List.length_cons, List.length_append] at hfuel
    simp only [writeMembers, literal, List.cons_append, List.append_assoc, List.nil_append]
    rw [readMoreMembers_comma (l.blank_gap _)]
    refine reads_member k (fun j => reads_gap l.blank_pad (fun j => ?_) _)
      (reads_writeMembers ms hms.2 depth rest _ (by omega))
    exact reads_write x hms.1 _ _ (ends_writeMembers ms depth rest) _ (by omega) _

end

/-- Each written form is read as the value, also with a line break behind it. -/
theorem parse?_render (v : Value) (hv : v.Exact) (spread : Bool) :
    parse? (v.render spread ++ "\n") = some v := by
  have hends : Ends ['\n'] := by
    intro c hc
    obtain rfl : '\n' = c := by simpa using hc
    decide
  have hsource : (v.render spread ++ "\n").toList = v.write (.of spread) 0 ++ ['\n'] := by
    rw [render_eq_write, String.toList_append, String.toList_ofList]
    rfl
  obtain ⟨htells, stop, hleft⟩ := reads_write (l := .of spread) v hv 0 ['\n'] hends
    (3 * (v.write (.of spread) 0 ++ ['\n']).length + 3)
    (by simp only [List.length_append]; omega) 0
  have hblank : skipBlanks ['\n'] stop = ([], stop + 1) := rfl
  rw [parse?, hsource, Document.ofChars]
  rcases hread : readValue (3 * (v.write (.of spread) 0 ++ ['\n']).length + 3)
    (v.write (.of spread) 0 ++ ['\n']) 0 with ⟨root, progress⟩
  rw [hread] at htells hleft
  dsimp only at htells hleft
  subst hleft
  simp only [hblank, htells]

end Value

end BindingTables.Json

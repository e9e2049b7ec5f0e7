import BindingTables.Json.Literal

/-! A JSON text as a tree with byte offsets. Reading never fails: where the text breaks off being
JSON the tree has a broken leaf, and whoever gets there in reading order reports it. -/

namespace BindingTables.Json

/-- One fault as each kind of reader meets it. -/
structure Faults where
  /-- For a reader that uses the value. -/
  kept : Fault
  /-- For a reader that passes over the value. -/
  skipped : Fault
  /-- For a reader that has all items it wants and expects the end of the list. -/
  surplus : Fault

def Faults.all (f : Fault) : Faults := ⟨f, f, f⟩

mutual

inductive Node
  | broken (faults : Faults)
  | null (stop : Nat)
  | flag (b : Bool) (stop : Nat)
  | number (n : Except Fault Number) (stop : Nat)
  | text (s : Except Fault String) (stop : Nat)
  | list (start : Nat) (items : Items)
  | object (start : Nat) (members : Members)

inductive Items
  | close (stop : Nat)
  | broken (faults : Faults)
  | cons (start : Nat) (item : Node) (rest : Items)

/-- `settled` is where a complaint about the key itself is reported. -/
inductive Members
  | close (stop : Nat)
  | broken (faults : Faults)
  | cons (key : Except Fault String) (settled : Nat) (value : Node) (rest : Members)

end

/-- What is left to read, or the faults at which reading ended. -/
abbrev Progress := Except Faults (List Char × Nat)

def scalar (taken : Except Fault (List Char × Nat)) (leaf : Nat → Node) : Node × Progress :=
  match taken with
  | .error f => (.broken (.all f), .error (.all f))
  | .ok (rest, stop) => (leaf stop, .ok (rest, stop))

def halt (faults : Faults) : Node × Progress := (.broken faults, .error faults)

def readNumber (cs : List Char) (i : Nat) : Node × Progress :=
  match keepNumber cs i, skipNumber cs i with
  | .ok (n, _, _), .ok (rest, stop) => (.number (.ok n) stop, .ok (rest, stop))
  | .error f, .ok (rest, stop) => (.number (.error f) stop, .ok (rest, stop))
  | .ok _, .error g => halt (.all g)
  | .error f, .error g => halt ⟨f, g, f⟩

/-- The text of a literal and what follows it, from behind the opening quote. -/
def readText (cs : List Char) (i : Nat) :
    Except Faults (Except Fault String × List Char × Nat) :=
  match keepText cs i, skipText cs i with
  | .ok (s, _, _), .ok (rest, stop) => .ok (.ok (.ofList s), rest, stop)
  | .error f, .ok (rest, stop) => .ok (.error f, rest, stop)
  | .ok _, .error g => .error (.all g)
  | .error f, .error g => .error ⟨f, g, f⟩

mutual

/-- Reads a value; `fuel` bounds the steps and never runs out in `Document.ofChars`. -/
def readValue (fuel : Nat) (cs : List Char) (i : Nat) : Node × Progress :=
  match fuel with
  | 0 => halt (.all ⟨.expectedValue, i⟩)
  | fuel + 1 =>
    match skipBlanks cs i with
    | ([], i) => halt (.all ⟨.endOfValue, i⟩)
    | ('n' :: cs, i) => scalar (readWord ['u', 'l', 'l'] cs (i + 1)) .null
    | ('t' :: cs, i) => scalar (readWord ['r', 'u', 'e'] cs (i + 1)) (.flag true)
    | ('f' :: cs, i) => scalar (readWord ['a', 'l', 's', 'e'] cs (i + 1)) (.flag false)
    | ('"' :: cs, i) =>
      match readText cs (i + 1) with
      | .error faults => halt faults
      | .ok (s, rest, stop) => (.text s stop, .ok (rest, stop))
    | ('[' :: cs, i) =>
      let (items, progress) := readItems fuel cs (i + 1)
      (.list i items, progress)
    | ('{' :: cs, i) =>
      let (members, progress) := readMembers fuel cs (i + 1)
      (.object i members, progress)
    | (c :: cs, i) =>
      if c = '-' ∨ isDigit c then readNumber (c :: cs) i
      else halt (.all ⟨.expectedValue, i + 1⟩)

/-- Reads items from behind the opening bracket. -/
def readItems (fuel : Nat) (cs : List Char) (i : Nat) : Items × Progress :=
  match fuel with
  | 0 => (.broken (.all ⟨.expectedValue, i⟩), .error (.all ⟨.expectedValue, i⟩))
  | fuel + 1 =>
    match skipBlanks cs i with
    | ([], i) => (.broken (.all ⟨.endOfList, i⟩), .error (.all ⟨.endOfList, i⟩))
    | (']' :: cs, i) => (.close (i + 1), .ok (cs, i + 1))
    | (cs, i) => readItem fuel cs i

def readItem (fuel : Nat) (cs : List Char) (i : Nat) : Items × Progress :=
  match fuel with
  | 0 => (.broken (.all ⟨.expectedValue, i⟩), .error (.all ⟨.expectedValue, i⟩))
  | fuel + 1 =>
    match readValue fuel cs i with
    | (item, .error faults) => (.cons i item (.broken faults), .error faults)
    | (item, .ok (cs, j)) =>
      let (rest, progress) := readMoreItems fuel cs j
      (.cons i item rest, progress)

/-- Reads items from behind an item. -/
def readMoreItems (fuel : Nat) (cs : List Char) (i : Nat) : Items × Progress :=
  match fuel with
  | 0 => (.broken (.all ⟨.expectedValue, i⟩), .error (.all ⟨.expectedValue, i⟩))
  | fuel + 1 =>
    let stopWith (faults : Faults) : Items × Progress := (.broken faults, .error faults)
    match skipBlanks cs i with
    | ([], i) => stopWith (.all ⟨.endOfList, i⟩)
    | (']' :: cs, i) => (.close (i + 1), .ok (cs, i + 1))
    | (',' :: cs, i) =>
      match skipBlanks cs (i + 1) with
      | ([], j) =>
        stopWith ⟨⟨.endOfValue, j⟩, ⟨.endOfValue, j⟩, ⟨.trailingCharacters, j⟩⟩
      | (']' :: _, j) =>
        stopWith ⟨⟨.trailingComma, j + 1⟩, ⟨.expectedValue, j + 1⟩, ⟨.trailingComma, j + 1⟩⟩
      | (cs, j) => readItem fuel cs j
    | (_ :: _, i) =>
      stopWith ⟨⟨.expectedNextItem, i + 1⟩, ⟨.expectedNextItem, i + 1⟩,
        ⟨.trailingCharacters, i + 1⟩⟩

/-- Reads members from behind the opening brace. -/
def readMembers (fuel : Nat) (cs : List Char) (i : Nat) : Members × Progress :=
  match fuel with
  | 0 => (.broken (.all ⟨.expectedValue, i⟩), .error (.all ⟨.expectedValue, i⟩))
  | fuel + 1 =>
    let stopWith (faults : Faults) : Members × Progress := (.broken faults, .error faults)
    match skipBlanks cs i with
    | ([], i) => stopWith (.all ⟨.endOfObject, i⟩)
    | ('}' :: cs, i) => (.close (i + 1), .ok (cs, i + 1))
    | ('"' :: cs, i) => readMember fuel cs (i + 1)
    | (_ :: _, i) => stopWith (.all ⟨.keyNotText, i + 1⟩)

/-- Reads a member from behind the opening quote of its key. -/
def readMember (fuel : Nat) (cs : List Char) (i : Nat) : Members × Progress :=
  match fuel with
  | 0 => (.broken (.all ⟨.expectedValue, i⟩), .error (.all ⟨.expectedValue, i⟩))
  | fuel + 1 =>
    match readText cs i with
    | .error faults => (.broken faults, .error faults)
    | .ok (key, cs, i) =>
      let stopWith (settled : Nat) (f : Fault) : Members × Progress :=
        (.cons key settled (.broken (.all f)) (.broken (.all f)), .error (.all f))
      match skipBlanks cs i with
      | ([], i) => stopWith i ⟨.endOfObject, i⟩
      | ('}' :: _, i) => stopWith (i + 1) ⟨.expectedColon, i + 1⟩
      | (':' :: cs, i) =>
        match readValue fuel cs (i + 1) with
        | (value, .error faults) => (.cons key i value (.broken faults), .error faults)
        | (value, .ok (cs, j)) =>
          let (rest, progress) := readMoreMembers fuel cs j
          (.cons key i value rest, progress)
      | (_ :: _, i) => stopWith i ⟨.expectedColon, i + 1⟩

/-- Reads members from behind a member. -/
def readMoreMembers (fuel : Nat) (cs : List Char) (i : Nat) : Members × Progress :=
  match fuel with
  | 0 => (.broken (.all ⟨.expectedValue, i⟩), .error (.all ⟨.expectedValue, i⟩))
  | fuel + 1 =>
    let stopWith (faults : Faults) : Members × Progress := (.broken faults, .error faults)
    match skipBlanks cs i with
    | ([], i) => stopWith (.all ⟨.endOfObject, i⟩)
    | ('}' :: cs, i) => (.close (i + 1), .ok (cs, i + 1))
    | (',' :: cs, i) =>
      match skipBlanks cs (i + 1) with
      | ([], j) => stopWith ⟨⟨.endOfValue, j⟩, ⟨.endOfObject, j⟩, ⟨.endOfValue, j⟩⟩
      | ('"' :: cs, j) => readMember fuel cs (j + 1)
      | ('}' :: _, j) =>
        stopWith ⟨⟨.trailingComma, j + 1⟩, ⟨.keyNotText, j + 1⟩, ⟨.trailingComma, j + 1⟩⟩
      | (_ :: _, j) => stopWith (.all ⟨.keyNotText, j + 1⟩)
    | (_ :: _, i) => stopWith (.all ⟨.expectedNextMember, i + 1⟩)

end

structure Document where
  root : Node
  /-- What follows the value and is not blank. -/
  trailing : Option Fault

/-- Each step takes a character or is followed by one that does. -/
def Document.ofChars (cs : List Char) : Document :=
  match readValue (3 * cs.length + 3) cs 0 with
  | (root, .error _) => ⟨root, none⟩
  | (root, .ok (rest, i)) =>
    match skipBlanks rest i with
    | ([], _) => ⟨root, none⟩
    | (_ :: _, i) => ⟨root, some ⟨.trailingCharacters, i + 1⟩⟩

end BindingTables.Json

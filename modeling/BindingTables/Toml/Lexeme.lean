import BindingTables.Decimal.Shortest
import BindingTables.Toml.Value

/-! Keys, texts, numbers and dates as TOML writes them. -/

namespace BindingTables.Toml

/-- What is left to read, and the byte offset where it starts. -/
structure Cursor where
  rest : List Char
  offset : Nat

/-- Reads from the cursor; no answer means that the text is not TOML. -/
abbrev Parser := StateT Cursor Option

def look : Parser (Option Char) := do return (← get).rest.head?

def here : Parser Nat := do return (← get).offset

def Cursor.drop (c : Cursor) (n : Nat) : Cursor :=
  ⟨c.rest.drop n, c.offset + Text.byteSize (c.rest.take n)⟩

def any : Parser Char := do
  match (← get).rest with
  | [] => failure
  | c :: _ =>
    modify (·.drop 1)
    return c

def sees (cs : List Char) : Parser Bool := do return cs.isPrefixOf (← get).rest

/-- Takes `cs` if it comes next. -/
def takes (cs : List Char) : Parser Bool := do
  let seen ← sees cs
  if seen then modify (·.drop cs.length)
  return seen

def expect (c : Char) : Parser Unit := do
  if !(← takes [c]) then failure

def run (p : Char → Bool) : Parser (List Char) := do
  let cs := (← get).rest.takeWhile p
  modify (·.drop cs.length)
  return cs

def check (b : Bool) : Parser Unit := if b then pure () else failure

def isBlank (c : Char) : Bool := c = ' ' || c = '\t'

def blanks : Parser Unit := do let _ ← run isBlank

/-- Control characters other than the tab stand nowhere. -/
def isPlain (c : Char) : Bool := c = '\t' || ' ' ≤ c && c ≠ '\x7f'

def newline : Parser Bool := do
  if ← takes ['\n'] then return true
  takes ['\r', '\n']

def comment : Parser Unit := do
  if ← takes ['#'] then
    let cs ← run fun c => c ≠ '\n' && c ≠ '\r'
    check (cs.all isPlain)

/-- Blanks, comments and line breaks. -/
def filler : (fuel : Nat) → Parser Unit
  | 0 => pure ()
  | fuel + 1 => do
    blanks
    comment
    if ← newline then filler fuel

def atEnd : Parser Bool := do return (← get).rest.isEmpty

def endOfLine : Parser Unit := do
  blanks
  comment
  if !(← atEnd) then check (← newline)

/-- Reads with `p` and tells the span. -/
def spanned {α : Type} (p : Parser α) : Parser (α × Span) := do
  let start ← here
  let a ← p
  return (a, ⟨start, (← here) - start⟩)

def isDigit (c : Char) : Bool := '0' ≤ c && c ≤ '9'

def hexValue? (c : Char) : Option Nat :=
  if isDigit c then some (c.toNat - 48)
  else if 'a' ≤ c ∧ c ≤ 'f' then some (c.toNat - 87)
  else if 'A' ≤ c ∧ c ≤ 'F' then some (c.toNat - 55)
  else none

def hexChar : (digits value : Nat) → Parser Char
  | 0, n => do
    check (n.isValidChar)
    return Char.ofNat n
  | digits + 1, n => do
    let some d := hexValue? (← any) | failure
    hexChar digits (16 * n + d)

/-- The character of an escape, from behind the backslash. -/
def escaped : Parser Char := do
  match ← any with
  | 'b' => return '\x08'
  | 't' => return '\t'
  | 'n' => return '\n'
  | 'f' => return '\x0c'
  | 'r' => return '\r'
  | 'e' => return '\x1b'
  | '"' => return '"'
  | '\\' => return '\\'
  | 'x' => hexChar 2 0
  | 'u' => hexChar 4 0
  | 'U' => hexChar 8 0
  | _ => failure

/-- The rest of a text on one line; only one in double quotes has escapes. -/
def lineText (quote : Char) : (fuel : Nat) → Parser (List Char)
  | 0 => failure
  | fuel + 1 => do
    let c ← any
    if c = quote then return []
    let c ← if c = '\\' ∧ quote = '"' then escaped else do
      check (isPlain c)
      pure c
    return c :: (← lineText quote fuel)

def lineBreaks : (fuel : Nat) → Parser Unit
  | 0 => pure ()
  | fuel + 1 => do
    blanks
    if ← newline then lineBreaks fuel

/-- The rest of a text over several lines. Up to two quotes stand before the closing three. -/
def blockText (quote : Char) : (fuel : Nat) → Parser (List Char)
  | 0 => failure
  | fuel + 1 => do
    if ← sees [quote, quote, quote] then
      let quotes ← run (· = quote)
      check (quotes.length ≤ 5)
      return quotes.drop 3
    let c ← any
    if c = '\\' ∧ quote = '"' then
      let ahead := (← get).rest.dropWhile isBlank
      if ahead.head? = some '\n' ∨ ['\r', '\n'].isPrefixOf ahead then
        lineBreaks fuel
        blockText quote fuel
      else
        let c ← escaped
        return c :: (← blockText quote fuel)
    else if c = '\r' then
      check (← sees ['\n'])
      return c :: (← blockText quote fuel)
    else
      check (isPlain c || c = '\n')
      return c :: (← blockText quote fuel)

/-- A text in any quotes. -/
def quotedText : Parser String := do
  let fuel := (← get).rest.length
  let some quote ← look | failure
  if ← takes [quote, quote, quote] then
    let _ ← newline
    return .ofList (← blockText quote fuel)
  expect quote
  return .ofList (← lineText quote fuel)

def isBareKey (c : Char) : Bool := c.isAlphanum || c = '_' || c = '-'

def simpleKey : Parser Key := do
  let fuel := (← get).rest.length
  let read : Parser String := do
    match ← look with
    | some '"' =>
      expect '"'
      return .ofList (← lineText '"' fuel)
    | some '\'' =>
      expect '\''
      return .ofList (← lineText '\'' fuel)
    | _ =>
      let cs ← run isBareKey
      check (!cs.isEmpty)
      return .ofList cs
  let (name, span) ← spanned read
  return ⟨name, span⟩

/-- The path and the last part of a key with dots. -/
def dottedKey : (fuel : Nat) → Parser (List Key × Key)
  | 0 => failure
  | fuel + 1 => do
    blanks
    let k ← simpleKey
    blanks
    if ← takes ['.'] then
      let (path, last) ← dottedKey fuel
      return (k :: path, last)
    return ([], k)

/-- Digits with single underscores between them. -/
def digitGroups (isDigit : Char → Bool) : List Char → Option (List Char)
  | [] => none
  | [c] => if isDigit c then some [c] else none
  | c :: '_' :: cs => if isDigit c then (digitGroups isDigit cs).map (c :: ·) else none
  | c :: cs => if isDigit c then (digitGroups isDigit cs).map (c :: ·) else none

def ofDigits (base : Nat) (cs : List Char) : Nat :=
  cs.foldl (fun n c => base * n + (hexValue? c).getD 0) 0

def splitSign : List Char → Bool × List Char
  | '-' :: cs => (true, cs)
  | '+' :: cs => (false, cs)
  | cs => (false, cs)

/-- Whole digits without a needless zero in front. -/
def wholePart? (cs : List Char) : Option (List Char) := do
  let digits ← digitGroups isDigit cs
  if digits.head? = some '0' ∧ digits ≠ ['0'] then none else some digits

def wholeNumber? (cs : List Char) : Option Int :=
  let based (base : Nat) (isDigit : Char → Bool) (cs : List Char) : Option Int :=
    (digitGroups isDigit cs).map fun digits => ofDigits base digits
  match cs with
  | '0' :: 'x' :: cs => based 16 (fun c => (hexValue? c).isSome) cs
  | '0' :: 'o' :: cs => based 8 (fun c => '0' ≤ c && c ≤ '7') cs
  | '0' :: 'b' :: cs => based 2 (fun c => c = '0' || c = '1') cs
  | cs =>
    let (negative, cs) := splitSign cs
    (wholePart? cs).map fun digits =>
      if negative then -(ofDigits 10 digits : Int) else ofDigits 10 digits

def exponent? (cs : List Char) : Option Int :=
  let (negative, cs) := splitSign cs
  (digitGroups isDigit cs).map fun digits =>
    if negative then -(ofDigits 10 digits : Int) else ofDigits 10 digits

/-- A decimal number, rounded to the nearest double. -/
def decimal? (cs : List Char) : Option Float := do
  let (negative, cs) := splitSign cs
  let isMark (c : Char) : Bool := c = 'e' || c = 'E'
  let mantissa := cs.takeWhile (!isMark ·)
  let exponent ← match cs.dropWhile (!isMark ·) with
    | [] => some 0
    | _ :: e => exponent? e
  let whole ← wholePart? (mantissa.takeWhile (· ≠ '.'))
  let fraction ← match mantissa.dropWhile (· ≠ '.') with
    | [] => some []
    | _ :: f => digitGroups isDigit f
  let power := exponent - fraction.length
  let digits := ofDigits 10 (whole ++ fraction)
  let x := if power < 0 then Float.ofScientific digits true (min power.natAbs 100000)
    else Float.ofScientific digits false (min power.natAbs 100000)
  return if negative then -x else x

def special? (cs : List Char) : Option Float :=
  let (negative, word) := splitSign cs
  match word with
  | ['i', 'n', 'f'] => some (if negative then -(1.0 / 0.0) else 1.0 / 0.0)
  | ['n', 'a', 'n'] => some (0.0 / 0.0)
  | _ => none

def two? (low high : Nat) (a b : Char) : Option Nat :=
  if isDigit a && isDigit b then
    let n := ofDigits 10 [a, b]
    if low ≤ n ∧ n ≤ high then some n else none
  else none

def monthDays (year month : Nat) : Nat :=
  if month = 2 then
    if year % 4 = 0 ∧ (year % 100 ≠ 0 ∨ year % 400 = 0) then 29 else 28
  else if month = 4 ∨ month = 6 ∨ month = 9 ∨ month = 11 then 30 else 31

/-- Reads a date and gives back what follows it. -/
def dateRest? : List Char → Option (List Char)
  | a :: b :: c :: d :: '-' :: e :: f :: '-' :: g :: h :: rest => do
    if !(isDigit a && isDigit b && isDigit c && isDigit d) then none
    let month ← two? 1 12 e f
    let _ ← two? 1 (monthDays (ofDigits 10 [a, b, c, d]) month) g h
    return rest
  | _ => none

/-- Seconds and their fraction may be left out. -/
def timeRest? : List Char → Option (List Char)
  | a :: b :: ':' :: c :: d :: rest => do
    let _ ← two? 0 23 a b
    let _ ← two? 0 59 c d
    match rest with
    | ':' :: e :: f :: rest =>
      let _ ← two? 0 60 e f
      match rest with
      | '.' :: rest =>
        let digits := rest.takeWhile isDigit
        if digits.isEmpty then none else some (rest.dropWhile isDigit)
      | rest => some rest
    | ':' :: _ => none
    | rest => some rest
  | _ => none

def isZone : List Char → Bool
  | [] | ['Z'] | ['z'] => true
  | [sign, a, b, ':', c, d] =>
    (sign = '+' || sign = '-') && (two? 0 23 a b).isSome && (two? 0 59 c d).isSome
  | _ => false

/-- A date, a time, or both with or without a zone. -/
def isMoment (cs : List Char) : Bool :=
  match dateRest? cs with
  | some [] => true
  | some (mark :: time) =>
    (mark = 'T' || mark = 't' || mark = ' ') && (timeRest? time).any isZone
  | none => timeRest? cs == some []

def isScalar (c : Char) : Bool :=
  c.isAlphanum || c = '_' || c = '-' || c = '+' || c = '.' || c = ':'

/-- The letters of a value without quotes or brackets; a blank may part a date from a time. -/
def scalarToken : Parser (List Char) := do
  let token ← run isScalar
  if dateRest? token = some [] then
    match (← get).rest with
    | ' ' :: c :: _ =>
      if isDigit c then
        expect ' '
        return token ++ ' ' :: (← run isScalar)
      return token
    | _ => return token
  return token

def scalar : Parser Value := do
  let (token, span) ← spanned scalarToken
  match token with
  | ['t', 'r', 'u', 'e'] => return .flag span true
  | ['f', 'a', 'l', 's', 'e'] => return .flag span false
  | token =>
    if isMoment token then return .moment span
    match wholeNumber? token, special? token with
    | some n, _ => return .whole span n
    | none, some x => return .real span (Decimal.plain x)
    | none, none =>
      let some x := decimal? token | failure
      return if x.isInf then .overflow span else .real span (Decimal.plain x)

end BindingTables.Toml

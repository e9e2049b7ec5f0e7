import BindingTables.Json.Literal

/-! JSON values and their two written forms. -/

namespace BindingTables.Json

inductive Value
  | null
  | flag (b : Bool)
  | whole (n : Int)
  | text (s : String)
  | list (items : List Value)
  | object (members : List (String × Value))

namespace Value

def ofOption {α : Type} (f : α → Value) : Option α → Value
  | none => null
  | some a => f a

end Value

def escapedChar : Char → List Char
  | '"' => ['\\', '"']
  | '\\' => ['\\', '\\']
  | '\x08' => ['\\', 'b']
  | '\x0c' => ['\\', 'f']
  | '\n' => ['\\', 'n']
  | '\r' => ['\\', 'r']
  | '\t' => ['\\', 't']
  | c =>
    if c < ' ' then
      ['\\', 'u', '0', '0', Text.hexDigit (c.toNat / 16), Text.hexDigit (c.toNat % 16)]
    else [c]

def literal (s : String) : List Char := '"' :: s.toList.flatMap escapedChar ++ ['"']

def wholeDigits (n : Int) : List Char :=
  if n < 0 then '-' :: Nat.toDigits 10 n.natAbs else Nat.toDigits 10 n.natAbs

namespace Value

mutual

/-- The form on one line, without blanks. -/
def compact : Value → List Char
  | null => ['n', 'u', 'l', 'l']
  | flag true => ['t', 'r', 'u', 'e']
  | flag false => ['f', 'a', 'l', 's', 'e']
  | whole n => wholeDigits n
  | text s => literal s
  | list [] => ['[', ']']
  | list (x :: xs) => '[' :: compact x ++ compactItems xs
  | object [] => ['{', '}']
  | object ((k, x) :: ms) => '{' :: literal k ++ ':' :: compact x ++ compactMembers ms

def compactItems : List Value → List Char
  | [] => [']']
  | x :: xs => ',' :: compact x ++ compactItems xs

def compactMembers : List (String × Value) → List Char
  | [] => ['}']
  | (k, x) :: ms => ',' :: literal k ++ ':' :: compact x ++ compactMembers ms

end

/-- A line break and the blanks before what stands at `depth`. -/
def newline (depth : Nat) : List Char := '\n' :: List.replicate (2 * depth) ' '

mutual

/-- The form with an item or a member a line. -/
def pretty (depth : Nat) : Value → List Char
  | null => ['n', 'u', 'l', 'l']
  | flag true => ['t', 'r', 'u', 'e']
  | flag false => ['f', 'a', 'l', 's', 'e']
  | whole n => wholeDigits n
  | text s => literal s
  | list [] => ['[', ']']
  | list (x :: xs) =>
    '[' :: newline (depth + 1) ++ pretty (depth + 1) x ++ prettyItems depth xs
  | object [] => ['{', '}']
  | object ((k, x) :: ms) =>
    '{' :: newline (depth + 1) ++ literal k ++ ':' :: ' ' :: pretty (depth + 1) x
      ++ prettyMembers depth ms

def prettyItems (depth : Nat) : List Value → List Char
  | [] => newline depth ++ [']']
  | x :: xs => ',' :: newline (depth + 1) ++ pretty (depth + 1) x ++ prettyItems depth xs

def prettyMembers (depth : Nat) : List (String × Value) → List Char
  | [] => newline depth ++ ['}']
  | (k, x) :: ms =>
    ',' :: newline (depth + 1) ++ literal k ++ ':' :: ' ' :: pretty (depth + 1) x
      ++ prettyMembers depth ms

end

def render (spread : Bool) (v : Value) : String :=
  .ofList (if spread then v.pretty 0 else v.compact)

end Value

end BindingTables.Json

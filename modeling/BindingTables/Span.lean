import BindingTables.Text.Split

/-! Stretches of a source text, in bytes, and the search for declared names in it. -/

namespace BindingTables

open BindingTables.Text

structure Span where
  start : Nat
  length : Nat
deriving DecidableEq

/-- Where `pattern` occurs in `cs`, as byte offsets after `i`; an occurrence starts no earlier
than the one before it ends. The first `busy` characters belong to one already. -/
def occurrences (pattern : List Char) : (busy : Nat) → List Char → Nat → List Nat
  | _, [], _ => []
  | busy + 1, c :: cs, i => occurrences pattern busy cs (i + c.utf8Size)
  | 0, c :: cs, i =>
    if pattern.isPrefixOf (c :: cs) then
      i :: occurrences pattern (pattern.length - 1) cs (i + c.utf8Size)
    else occurrences pattern 0 cs (i + c.utf8Size)

/-- The two ways in which dumps space a name key before its value. -/
def nameKeys : List (List Char) := ["\"name\": ".toList, "\"name\":".toList]

/-- The span of the `nth` declaration of `name`, counted from zero under one spacing: the first
spacing that has so many decides. -/
def declaration? (source name : String) (nth : Nat) : Option Span :=
  nameKeys.findSome? fun key =>
    let quotedName := '"' :: name.toList ++ ['"']
    (occurrences (key ++ quotedName) 0 source.toList 0)[nth]?.map fun i =>
      ⟨i + byteSize key + 1, byteSize name.toList⟩

end BindingTables

import BindingTables.Api.Basic

/-! The metamethods of the scripting language that engine operators can install. -/

namespace BindingTables

inductive Metamethod
  | eq
  | lt
  | le
  | add
  | sub
  | mul
  | div
  | mod
  | unm
deriving DecidableEq

namespace Metamethod

def ofSymbol? : String → Option Metamethod
  | "==" => some eq
  | "<" => some lt
  | "<=" => some le
  | "+" => some add
  | "-" => some sub
  | "*" => some mul
  | "/" => some div
  | "%" => some mod
  | "unary-" => some unm
  | _ => none

def name : Metamethod → String
  | eq => "eq"
  | lt => "lt"
  | le => "le"
  | add => "add"
  | sub => "sub"
  | mul => "mul"
  | div => "div"
  | mod => "mod"
  | unm => "unm"

/-- The key in a metatable. -/
def key (m : Metamethod) : String := "__" ++ m.name

end Metamethod

/-- The engine's type of any value. -/
def dynamicType : String := "Variant"

/-- Dispatch tries overloads in order of rank: the least specific operand comes last. -/
def Operator.rank (o : Operator) : Nat :=
  match o.rightType with
  | none => 0
  | some t => if t = "int" then 1 else if t = dynamicType then 2 else 0

/-- The operators by rank, and by declaration within one rank. -/
def Operator.ranked (operators : List Operator) : List Operator :=
  operators.mergeSort fun a b => a.rank ≤ b.rank

/-- Whether the operator is bound, given whether an overload for `float` is bound already.
Equality is asked of operands of one class only, and a `float` overload serves whole numbers. -/
def Operator.accepted (className : String) (floatBound : Bool) (o : Operator) :
    Option Metamethod :=
  match Metamethod.ofSymbol? o.symbol with
  | none => none
  | some m =>
    match o.rightType with
    | none => some m
    | some t =>
      if m = .eq ∧ t ≠ className then none
      else if t = "int" ∧ floatBound then none
      else some m

def Operator.select (className : String) (floatBound : Bool) :
    List Operator → List (Operator × Metamethod)
  | [] => []
  | o :: rest =>
    match o.accepted className floatBound with
    | none => select className floatBound rest
    | some m => (o, m) :: select className (floatBound || o.rightType == some "float") rest

/-- The operators of a class that become metamethods, in the order of their registration. -/
def Operator.resolve (className : String) (operators : List Operator) :
    List (Operator × Metamethod) :=
  select className false (ranked operators)

/-- Ranking moves operators and neither drops nor doubles any. -/
theorem Operator.ranked_perm (operators : List Operator) : (ranked operators).Perm operators :=
  List.mergeSort_perm operators _

/-- Operators are picked out in the order in which they come. -/
theorem Operator.select_sublist (className : String) (floatBound : Bool)
    (operators : List Operator) :
    ((select className floatBound operators).map (·.1)).Sublist operators := by
  induction operators generalizing floatBound with
  | nil => exact .slnil
  | cons o rest ih =>
    rw [select]
    split
    · exact (ih floatBound).cons o
    · exact (ih _).cons_cons o

theorem Operator.length_resolve_le (className : String) (operators : List Operator) :
    (resolve className operators).length ≤ operators.length := by
  have h := (select_sublist className false (ranked operators)).length_le
  rwa [List.length_map, (ranked_perm operators).length_eq] at h

end BindingTables

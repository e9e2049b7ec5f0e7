import BindingTables.Api.Basic
import BindingTables.Identifier

/-! The setters and getters of properties, found among the methods of the class. -/

namespace BindingTables

open BindingTables.Text

inductive Accessor
  /-- The property declares none. -/
  | absent
  /-- A method of the class, by its name in scripts. -/
  | resolved (name : String)
  | missing (declared : String)
deriving DecidableEq

namespace Accessor

def identifier : Accessor → String
  | resolved name => name
  | _ => ""

def isMissing : Accessor → Bool
  | missing _ => true
  | _ => false

def resolved? : Accessor → Option String
  | resolved name => some name
  | _ => none

/-- The method may be declared under the name without the underscores around it. -/
def find (c : Class) (declared : String) : Accessor :=
  let trimmed := String.ofList (trimBoth (· = '_') declared.toList)
  if c.declares declared then resolved (Identifier.pascal declared)
  else if c.declares trimmed then resolved (Identifier.pascal trimmed)
  else missing declared

def ofDeclared (c : Class) : Option String → Accessor
  | none => absent
  | some declared => if declared = "" then absent else find c declared

end Accessor

def Property.setterIn (p : Property) (c : Class) : Accessor := .ofDeclared c p.setter

def Property.getterIn (p : Property) (c : Class) : Accessor := .ofDeclared c p.getter

/-- The accessors of a property with their roles. -/
def Property.accessorsIn (p : Property) (c : Class) : List (String × Accessor) :=
  [("setter", p.setterIn c), ("getter", p.getterIn c)]

end BindingTables

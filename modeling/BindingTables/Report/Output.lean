/-! The lines that reports are made of, and how a terminal shows them. -/

namespace BindingTables

inductive Output
  /-- A heading. -/
  | heading (name : String)
  | keyValue (key value : String)
  | keyValueIndented (key value : String)
  | numberedItem (index : Nat) (text : String)
  | listItem (text : String)
  | addedItem (text : String)
  | warning (message : String)
  | error (message : String)
  | divider (label : String)
  | preformatted (text : String)
  | newline
deriving DecidableEq

namespace Output

/-- Warnings and errors do not stand among the results. -/
def isRemark : Output → Bool
  | warning _ | error _ => true
  | _ => false

def text : Output → String
  | heading name => s!"{name}:"
  | keyValue key value => s!"{key}: {value}"
  | keyValueIndented key value => s!"  {key}: {value}"
  | numberedItem index text => s!"  {index}. {text}"
  | listItem text => s!"  - {text}"
  | addedItem text => s!"  + {text}"
  | warning message => s!"warning: {message}"
  | error message => s!"error: {message}"
  | divider label => s!"── {label} ──"
  | preformatted text => text
  | newline => ""

def lines (out : List Output) : String := "".intercalate (out.map fun o => o.text ++ "\n")

/-- The lines of the results. -/
def results (out : List Output) : String := lines (out.filter (!·.isRemark))

/-- The lines of the warnings and errors. -/
def remarks (out : List Output) : String := lines (out.filter (·.isRemark))

end Output

end BindingTables

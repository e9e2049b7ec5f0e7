import BindingTables.Command.Arguments

/-! The texts of help: what a command does, how it is called, and its options. -/

namespace BindingTables

namespace Topic

def description : Topic → String
  | program => "Generate Luau binding tables from a Godot extension API dump"
  | generate => "Generate bindings.json from extension_api.json"
  | check => "Validate the API dump without generating bindings"
  | info => "Show the API version and binding statistics"
  | completions => "Generate shell completions"
  | help => "Print this message or the help of the given subcommand(s)"

def usage : Topic → String
  | program => "luagd <COMMAND>"
  | generate => "luagd generate [OPTIONS]"
  | check => "luagd check [OPTIONS]"
  | info => "luagd info [OPTIONS]"
  | completions => "luagd completions <SHELL>"
  | help => "luagd help [COMMAND]..."

open BindingTables.Command in
/-- The arguments that are not options. -/
def arguments : Topic → List (String × String)
  | completions =>
    let choices := ", ".intercalate shells
    [("<SHELL>", s!"Shell to generate completions for [possible values: {choices}]")]
  | help => [("[COMMAND]...", "Print help for the subcommand(s)")]
  | _ => []

end Topic

namespace Command

/-- The option with both its names and the place of its value. -/
def OptionSpec.form (o : OptionSpec) : String :=
  (match o.short with
    | some c => s!"-{c}, "
    | none => "    ")
    ++ s!"--{o.long}"
    ++ (if o.action = .value then s!" <{o.long.toUpper}>" else "")

def padded (width : Nat) (s : String) : String :=
  s ++ .ofList (List.replicate (width - s.toList.length) ' ')

/-- A heading over entries whose descriptions stand in one column; nothing without entries. -/
def table (heading : String) (entries : List (String × String)) : List String :=
  if entries.isEmpty then []
  else
    let width := (entries.map fun entry => entry.1.toList.length).foldl max 0
    "" :: s!"{heading}:" :: entries.map fun (form, text) => s!"  {padded width form}  {text}"

end Command

namespace Topic

open BindingTables.Command in
def lines (t : Topic) : List String :=
  [t.description, "", s!"Usage: {t.usage}"]
    ++ table "Commands"
      (if t = program then commands.map fun (name, c) => (name, c.description) else [])
    ++ table "Arguments" t.arguments
    ++ table "Options" (t.options.map fun o => (o.form, o.description))

def text (t : Topic) : String := "\n".intercalate t.lines

end Topic

end BindingTables

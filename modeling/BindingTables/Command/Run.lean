import BindingTables.Api.Validation
import BindingTables.Command.Help
import BindingTables.Command.Operation
import BindingTables.Settings

/-! Commands run over a tree of files. -/

namespace BindingTables

namespace FileTree

def settings (t : FileTree) (path : String) : Except InputError Settings :=
  match t.readText path with
  | none => .error (.unreadable path)
  | some source => Settings.parse path source

/-- Reads the settings file: one that is named must be there, the usual one may not be. -/
def settingsOr (t : FileTree) : Option String → Except InputError Settings
  | some path => t.settings path
  | none =>
    if t.holds Settings.fileName then t.settings Settings.fileName else .ok .standard

def api (t : FileTree) (path : String) : Except InputError Api :=
  match t.readText path with
  | none => .error (.unreadable path)
  | some source => Api.parse path source

end FileTree

/-- The arguments win over the settings file. -/
def ApiArguments.override (args : ApiArguments) (s : Settings) : Settings :=
  { s with
    apiPath := args.apiPath.getD s.apiPath
    binding := { s.binding with
      strictAccessors := args.strict || s.binding.strictAccessors } }

/-- The settings that the arguments lead to, and the API that these lead to. -/
def ApiArguments.load (args : ApiArguments) (t : FileTree) : Except InputError (Settings × Api) :=
  match t.settingsOr args.settingsPath with
  | .error e => .error e
  | .ok s =>
    let s := args.override s
    match t.api s.apiPath with
    | .error e => .error e
    | .ok api => .ok (s, api)

def GenerateArguments.options (args : GenerateArguments) (s : Settings) :
    Operation.GenerateOptions where
  outputDir := args.outputDir.getD s.output.dir
  pretty := s.output.pretty && !args.compact
  dryRun := args.dryRun
  verbose := args.verbose

namespace Command

/-- How a command ends. -/
inductive Ending
  | finished (success : Bool) (out : List Output)
  | inputError (e : InputError)
  | commandError (e : CommandError)
  /-- The arguments are none of a command. -/
  | usage
  /-- Completions; a shell's text of them is not made here. -/
  | completions

namespace Ending

def exitCode : Ending → Nat
  | finished success _ => if success then 0 else 1
  | inputError _ | commandError _ => 1
  | usage => 2
  | completions => 0

/-- What goes to the results. -/
def results : Ending → String
  | finished _ out => Output.results out
  | _ => ""

/-- What goes to the warnings and errors. -/
def remarks : Ending → String
  | finished _ out => Output.remarks out
  | inputError e => Output.lines e.render
  | commandError e => Output.lines (e.chain.map .error)
  | usage => Output.lines [.error s!"unexpected arguments, try '{Topic.program.usage}'"]
  | completions => ""

end Ending

def versionLine : String := "luagd 0.3.0"

/-- Goes on with settings and API. -/
def withApi (t : FileTree) (args : ApiArguments)
    (k : Settings → Api → FileTree × Ending) : FileTree × Ending :=
  match args.load t with
  | .error e => (t, .inputError e)
  | .ok (s, api) => k s api

def run (t : FileTree) (elapsed : String → Nat) : Command → FileTree × Ending
  | check args => withApi t args fun s api =>
    let report := Operation.check s.apiPath api s.binding
    (t, .finished report.isValid report.render)
  | info args => withApi t args fun s api =>
    match Operation.info (t.canonical s.apiPath) api s.binding s.output.dir with
    | .error e => (t, .commandError e)
    | .ok report => (t, .finished true report.render)
  | generate args own => withApi t args fun s api =>
    match Operation.generate t s.apiPath api s.binding (own.options s) elapsed with
    | (t, .error e) => (t, .commandError e)
    | (t, .ok report) => (t, .finished report.isSuccess report.render)
  | version => (t, .finished true [.preformatted versionLine])
  | help topic => (t, .finished true [.preformatted topic.text])
  | completions _ => (t, .completions)

def runArguments (t : FileTree) (elapsed : String → Nat) (args : List String) :
    FileTree × Ending :=
  match parse? args with
  | none => (t, .usage)
  | some command => command.run t elapsed

end Command

end BindingTables

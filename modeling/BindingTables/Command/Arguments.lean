/-! The command line. -/

namespace BindingTables

/-- The choices of every command that reads the API. -/
structure ApiArguments where
  settingsPath : Option String
  apiPath : Option String
  strict : Bool
deriving DecidableEq

structure GenerateArguments where
  outputDir : Option String
  dryRun : Bool
  compact : Bool
  verbose : Bool
deriving DecidableEq

/-- What help can be asked for: the whole program or one of its commands. -/
inductive Topic
  | program
  | generate
  | check
  | info
  | completions
  | help
deriving DecidableEq

inductive Command
  | check (api : ApiArguments)
  | info (api : ApiArguments)
  | generate (api : ApiArguments) (own : GenerateArguments)
  | completions (shell : String)
  | version
  | help (topic : Topic)
deriving DecidableEq

namespace Command

/-- What an option does: it holds a value, stands for itself, or asks for a text. -/
inductive Action
  | value
  | flag
  | help
  | version
deriving DecidableEq

structure OptionSpec where
  long : String
  short : Option Char
  action : Action
  description : String

/-- The options as given, with their values; a flag has the empty one. -/
abbrev Given := List (String × String)

def helpOption : OptionSpec := ⟨"help", some 'h', .help, "Print help"⟩

def versionOption : OptionSpec := ⟨"version", some 'V', .version, "Print version"⟩

def apiOptions : List OptionSpec := [
  ⟨"config", some 'c', .value, "Path to luagd.toml (defaults to ./luagd.toml if present)"⟩,
  ⟨"api", some 'a', .value, "Path to extension_api.json (overrides luagd.toml)"⟩,
  ⟨"strict", none, .flag, "Treat unresolvable property accessors as errors"⟩]

def generateOptions : List OptionSpec := [
  ⟨"output", some 'o', .value, "Output directory (overrides luagd.toml)"⟩,
  ⟨"dry-run", none, .flag, "Preview generated bindings without writing to disk"⟩,
  ⟨"compact", none, .flag, "Write compact JSON instead of pretty-printed"⟩,
  ⟨"verbose", some 'v', .flag, "Show how long each pipeline phase took"⟩]

end Command

namespace Topic

/-- The commands that help can be asked for, by name. -/
def commands : List (String × Topic) := [
  ("generate", generate), ("check", check), ("info", info), ("completions", completions),
  ("help", help)]

open BindingTables.Command in
/-- The options of a command. -/
def options : Topic → List OptionSpec
  | program => [helpOption, versionOption]
  | check | info => apiOptions ++ [helpOption]
  | generate => apiOptions ++ generateOptions ++ [helpOption]
  | completions => [helpOption]
  | help => []

end Topic

namespace Command

/-- What the arguments of a command come to. -/
inductive Reading
  | given (given : Given)
  | help
  | version
  | refused

/-- No option may be given twice, and no value may be empty. -/
def give (given : Given) (o : OptionSpec) (value : String) : Option Given :=
  if given.any (·.1 = o.long) then none
  else if o.action = .value ∧ value = "" then none
  else some (given ++ [(o.long, value)])

/-- Whether an argument can be the value of the option before it. -/
def isValue (s : String) : Bool := s = "-" || s.toList.head? != some '-'

def findShort (options : List OptionSpec) (c : Char) : Option OptionSpec :=
  options.find? (·.short = some c)

def splitEquals (cs : List Char) : String × Option String :=
  (.ofList (cs.takeWhile (· ≠ '=')),
    match cs.dropWhile (· ≠ '=') with
    | [] => none
    | _ :: v => some (.ofList v))

def withoutEquals : List Char → List Char
  | '=' :: cs => cs
  | cs => cs

/-- One argument's worth of options: those given so far, and one that still waits for a value. -/
inductive Taken
  | done (given : Given)
  | waiting (given : Given) (o : OptionSpec)
  | help
  | version
  | refused

/-- A cluster of one-letter options; the rest behind one that takes a value is its value. -/
def takeShort (options : List OptionSpec) (given : Given) : List Char → Taken
  | [] => .done given
  | c :: cs =>
    match findShort options c with
    | none => .refused
    | some o =>
      match o.action with
      | .help => .help
      | .version => .version
      | .flag =>
        match give given o "" with
        | none => .refused
        | some given => takeShort options given cs
      | .value =>
        if cs.isEmpty then .waiting given o
        else
          match give given o (.ofList (withoutEquals cs)) with
          | none => .refused
          | some given => .done given

def takeLong (options : List OptionSpec) (given : Given) (cs : List Char) : Taken :=
  let (name, value) := splitEquals cs
  match options.find? (·.long = name) with
  | none => .refused
  | some o =>
    match o.action, value with
    | .help, none => .help
    | .version, none => .version
    | .flag, none =>
      match give given o "" with
      | none => .refused
      | some given => .done given
    | .value, none => .waiting given o
    | .value, some v =>
      match give given o v with
      | none => .refused
      | some given => .done given
    | _, some _ => .refused

def take (options : List OptionSpec) (given : Given) (arg : String) : Taken :=
  match arg.toList with
  | '-' :: '-' :: c :: cs => takeLong options given (c :: cs)
  | '-' :: c :: cs => if c = '-' then .refused else takeShort options given (c :: cs)
  | _ => .refused

/-- Reads the options of a command, which takes no other arguments; `waiting` is an option whose
value comes next. -/
def readOptions (options : List OptionSpec) (given : Given) (waiting : Option OptionSpec) :
    List String → Reading
  | [] =>
    match waiting with
    | none => .given given
    | some _ => .refused
  | arg :: rest =>
    match waiting with
    | some o =>
      if isValue arg then
        match give given o arg with
        | none => .refused
        | some given => readOptions options given none rest
      else .refused
    | none =>
      if arg = "--" then (if rest.isEmpty then .given given else .refused)
      else
        match take options given arg with
        | .done given => readOptions options given none rest
        | .waiting given o => readOptions options given (some o) rest
        | .help => .help
        | .version => .version
        | .refused => .refused

def Given.apiArguments (given : Given) : ApiArguments :=
  ⟨given.lookup "config", given.lookup "api", given.any (·.1 = "strict")⟩

def Given.generateArguments (given : Given) : GenerateArguments :=
  ⟨given.lookup "output", given.any (·.1 = "dry-run"), given.any (·.1 = "compact"),
    given.any (·.1 = "verbose")⟩

def ofReading (topic : Topic) (make : Given → Option Command) : Reading → Option Command
  | .given given => make given
  | .help => some (help topic)
  | .version => some version
  | .refused => none

/-- The command that the options stand behind. -/
def ofOptions (topic : Topic) (make : Given → Option Command) (args : List String) :
    Option Command :=
  ofReading topic make (readOptions topic.options [] none args)

def shells : List String := ["bash", "elvish", "fish", "powershell", "zsh"]

def completions? : List String → Option Command
  | shell :: rest =>
    if shells.contains shell then
      ofOptions .completions (fun _ => some (completions shell)) rest
    else ofOptions .completions (fun _ => none) (shell :: rest)
  | [] => none

def help? : List String → Option Command
  | [] => some (help .program)
  | [name] => (Topic.commands.lookup name).map help
  | _ => none

/-- The command of an argument list, or nothing if it is not one. -/
def parse? : List String → Option Command
  | "check" :: rest => ofOptions .check (fun g => some (.check (Given.apiArguments g))) rest
  | "info" :: rest => ofOptions .info (fun g => some (.info (Given.apiArguments g))) rest
  | "generate" :: rest =>
    ofOptions .generate
      (fun g => some (.generate (Given.apiArguments g) (Given.generateArguments g))) rest
  | "completions" :: rest => completions? rest
  | "help" :: rest => help? rest
  | args => ofOptions .program (fun _ => none) args

end Command

end BindingTables

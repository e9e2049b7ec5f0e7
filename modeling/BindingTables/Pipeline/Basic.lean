import BindingTables.Lint.Standard
import BindingTables.Pipeline.Context

/-! Pipelines: the phases of a run, and plugins that are called around each of them. -/

namespace BindingTables

/-- A run in progress; plugins and phases keep a record `σ` of their own beside the context. -/
structure Run (σ : Type) where
  context : Context
  record : σ

/-- A step may change the run before it fails. -/
abbrev Step (σ : Type) := Run σ → Run σ × Except Failure Unit

namespace Step

variable {σ : Type}

def ofContext (f : Context → Context × Except Failure Unit) : Step σ := fun r =>
  ({ r with context := (f r.context).1 }, (f r.context).2)

/-- Takes the steps in order, up to the first that fails. -/
def sequence : List (Step σ) → Step σ
  | [], r => (r, .ok ())
  | step :: rest, r =>
    match step r with
    | (r, .ok ()) => sequence rest r
    | (r, .error e) => (r, .error e)

end Step

structure Phase (σ : Type) where
  name : String
  description : String
  run : Step σ

/-- Its hooks are told the name of the phase. -/
structure Plugin (σ : Type) where
  name : String
  before : String → Step σ
  after : String → Step σ

namespace Phase

variable (σ : Type)

def validate (lints : List Lint) : Phase σ where
  name := "validate"
  description := "Check the API for inconsistencies and collect diagnostics"
  run := .ofContext (Context.validate lints)

def lower : Phase σ where
  name := "lower"
  description := "Resolve names, operators and accessors into binding tables"
  run := .ofContext fun c => (c.lower, .ok ())

def analyze : Phase σ where
  name := "analyze"
  description := "Compute binding statistics"
  run := .ofContext Context.analyze

def standard : List (Phase σ) := [validate σ Lint.standard, lower σ, analyze σ]

end Phase

structure Pipeline (σ : Type) where
  options : Options
  /-- Phases that follow the standard ones. -/
  phases : List (Phase σ)
  plugins : List (Plugin σ)

namespace Pipeline

variable {σ : Type}

def plain (options : Options) : Pipeline σ := ⟨options, [], []⟩

def allPhases (p : Pipeline σ) : List (Phase σ) := Phase.standard σ ++ p.phases

/-- The names and descriptions of the phases, in the order in which they run. -/
def phaseInfo (p : Pipeline σ) : List (String × String) :=
  p.allPhases.map fun phase => (phase.name, phase.description)

/-- Calls a hook of every plugin in the order of registration. -/
def callPlugins (hook : Plugin σ → Step σ) : List (Plugin σ) → Step σ
  | [], r => (r, .ok ())
  | plugin :: rest, r =>
    match hook plugin r with
    | (r, .ok ()) => callPlugins hook rest r
    | (r, .error e) => (r, .error e)

def runPhase (p : Pipeline σ) (phase : Phase σ) : Step σ := fun r =>
  match callPlugins (·.before phase.name) p.plugins r with
  | (r, .error e) => (r, .error e)
  | (r, .ok ()) =>
    match phase.run r with
    | (r, .error e) => (r, .error e)
    | (r, .ok ()) => callPlugins (·.after phase.name) p.plugins r

def runPhases (p : Pipeline σ) : List (Phase σ) → Step σ
  | [], r => (r, .ok ())
  | phase :: rest, r =>
    match p.runPhase phase r with
    | (r, .error e) => (r, .error e)
    | (r, .ok ()) => runPhases p rest r

/-- Runs all phases and keeps the context of a run that fails. -/
def runCollecting (p : Pipeline σ) (api : Api) (record : σ) : Run σ × Except Failure Unit :=
  p.runPhases p.allPhases ⟨.start api p.options, record⟩

def run (p : Pipeline σ) (api : Api) (record : σ) : Except Failure (Run σ) :=
  match p.runCollecting api record with
  | (r, .ok ()) => .ok r
  | (_, .error e) => .error e

end Pipeline

end BindingTables

import BindingTables.Lint.Basic
import BindingTables.Statistics

/-! What a run of the compiler has gathered so far. -/

namespace BindingTables

structure Context where
  api : Api
  options : Options
  /-- The tables, once they are lowered. -/
  bindings : Option Bindings
  statistics : Option Statistics
  diagnostics : List Diagnostic
deriving DecidableEq

/-- Why a step of a run ends it. -/
inductive Failure
  | invalid (errors : Nat)
  | notLowered
  | bindingsTaken
  | statisticsTaken
  /-- Tables are analyzed that hold more than is declared. -/
  | countBelowZero
  | custom (message : String)
deriving DecidableEq

/-- Whether the whole program ends with the run. -/
def Failure.isFatal : Failure → Bool
  | countBelowZero => true
  | _ => false

def Failure.message : Failure → String
  | invalid errors => s!"validation failed with {errors} error(s)"
  | notLowered => "bindings not lowered - AnalyzePhase must run after LowerPhase"
  | bindingsTaken => "bindings not lowered - did LowerPhase run?"
  | statisticsTaken => "statistics not computed - did AnalyzePhase run?"
  | countBelowZero => "attempt to subtract with overflow"
  | custom message => message

namespace Context

def start (api : Api) (options : Options) : Context := ⟨api, options, none, none, []⟩

def errors (c : Context) : List Diagnostic := c.diagnostics.filter (·.isError)

def warnings (c : Context) : List Diagnostic := c.diagnostics.filter (·.isWarning)

def hasErrors (c : Context) : Bool := c.diagnostics.any (·.isError)

def hasWarnings (c : Context) : Bool := c.diagnostics.any (·.isWarning)

def add (c : Context) (ds : List Diagnostic) : Context :=
  { c with diagnostics := c.diagnostics ++ ds }

def clear (c : Context) : Context := { c with diagnostics := [] }

/-- Runs the lints in order, then fails if any error is on record, old ones included. -/
def validate (lints : List Lint) (c : Context) : Context × Except Failure Unit :=
  let c := c.add (lints.flatMap fun lint => lint.check c.api c.options)
  if c.hasErrors then (c, .error (.invalid c.errors.length)) else (c, .ok ())

def lower (c : Context) : Context :=
  { c with bindings := some (c.api.lower c.options) }

def analyze (c : Context) : Context × Except Failure Unit :=
  match c.bindings with
  | none => (c, .error .notLowered)
  | some b =>
    match Statistics.compute? c.api c.options b with
    | none => (c, .error .countBelowZero)
    | some s => ({ c with statistics := some s }, .ok ())

/-- Takes the tables out of the context. -/
def takeBindings (c : Context) : Context × Except Failure Bindings :=
  match c.bindings with
  | none => (c, .error .bindingsTaken)
  | some b => ({ c with bindings := none }, .ok b)

def takeStatistics (c : Context) : Context × Except Failure Statistics :=
  match c.statistics with
  | none => (c, .error .statisticsTaken)
  | some s => ({ c with statistics := none }, .ok s)

end Context

end BindingTables

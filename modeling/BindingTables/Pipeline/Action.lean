import BindingTables.Pipeline.Basic

/-! The single things that can be done to a context, by phases and plugins alike. -/

namespace BindingTables

inductive Action
  | validate (lints : List Lint)
  | lower
  | analyze
  | add (d : Diagnostic)
  | clear
  | setStrict (strict : Bool)
  | setSkipClasses (names : List String)
  | takeBindings
  | takeStatistics
  | fail (message : String)

/-- What an action takes out of the context. -/
inductive Taken
  | nothing
  | bindings (b : Bindings)
  | statistics (s : Statistics)
deriving DecidableEq

namespace Action

def apply (c : Context) : Action → Context × Except Failure Taken
  | validate lints => ((c.validate lints).1, (c.validate lints).2.map fun _ => .nothing)
  | lower => (c.lower, .ok .nothing)
  | analyze => (c.analyze.1, c.analyze.2.map fun _ => .nothing)
  | add d => (c.add [d], .ok .nothing)
  | clear => (c.clear, .ok .nothing)
  | setStrict strict =>
    ({ c with options := { c.options with strictAccessors := strict } }, .ok .nothing)
  | setSkipClasses names =>
    ({ c with options := { c.options with skipClasses := names } }, .ok .nothing)
  | takeBindings => (c.takeBindings.1, c.takeBindings.2.map .bindings)
  | takeStatistics => (c.takeStatistics.1, c.takeStatistics.2.map .statistics)
  | fail message => (c, .error (.custom message))

/-- The action as a step that drops what it takes. -/
def step {σ : Type} (a : Action) : Step σ :=
  .ofContext fun c => ((a.apply c).1, (a.apply c).2.map fun _ => ())

end Action

/-- An action and the context that it is done to. -/
structure Moment where
  before : Context
  action : Action

namespace Moment

def after (m : Moment) : Context := (m.action.apply m.before).1

def outcome (m : Moment) : Except Failure Taken := (m.action.apply m.before).2

def isFatal (m : Moment) : Bool :=
  match m.outcome with
  | .error e => e.isFatal
  | .ok _ => false

end Moment

/-- The moments in which the actions are done, one after the other. An action that fails does not
keep the next from being done, unless the failure is fatal. -/
def Context.history (c : Context) : List Action → List Moment
  | [] => []
  | a :: rest =>
    let m : Moment := ⟨c, a⟩
    m :: if m.isFatal then [] else m.after.history rest

end BindingTables

import BindingTables.Generation
import BindingTables.Pipeline.Basic
import BindingTables.Report.Basic

/-! What the commands do with an API that is read and checked. -/

namespace BindingTables

/-- Why a command fails, the widest reason first. -/
inductive CommandError
  | apiInvalid (cause : Failure)
  | notWritten (cause : WriteFailure)
  | failed (cause : Failure)
deriving DecidableEq

/-- The messages, outermost first. -/
def CommandError.chain : CommandError → List String
  | apiInvalid cause => ["API has errors, run `luagd check` for details", cause.message]
  | notWritten cause => ["Failed to write bindings", cause.message]
  | failed cause => [cause.message]

namespace Operation

def check (apiPath : String) (api : Api) (options : Options) : CheckReport :=
  let (run, _) := (Pipeline.plain options).runCollecting api ()
  ⟨apiPath, .ofDiagnostics run.context.diagnostics⟩

def info (apiPath : String) (api : Api) (options : Options) (outputDir : String) :
    Except CommandError InfoReport :=
  let pipeline : Pipeline Unit := .plain options
  match pipeline.run api () with
  | .error e => .error (.apiInvalid e)
  | .ok run =>
    match run.context.takeStatistics.2 with
    | .error e => .error (.failed e)
    | .ok statistics =>
      .ok {
        apiPath
        version := api.version.map Version.render
        fullName := api.header.bind (·.fullName)
        outputDir
        statistics
        phases := pipeline.phaseInfo
        lints := Lint.standard.map fun lint => (lint.name, lint.description) }

/-- Records each phase that ends, with the time that `elapsed` gives it. -/
def timer (elapsed : String → Nat) : Plugin (List Timing) where
  name := "phase-timer"
  before := fun _ r => (r, .ok ())
  after := fun phase r =>
    let timing : Timing := ⟨phase, elapsed phase, r.context.diagnostics.length⟩
    ({ r with record := r.record ++ [timing] }, .ok ())

structure GenerateOptions where
  outputDir : String
  pretty : Bool
  dryRun : Bool
  verbose : Bool
deriving DecidableEq

/-- What becomes of the tables of a run that succeeded. -/
def emit (t : FileTree) (b : Bindings) (opts : GenerateOptions) :
    FileTree × Except CommandError Generation :=
  if opts.dryRun then (t, .ok (.preview (b.preview opts.pretty)))
  else
    match b.generate opts.pretty t opts.outputDir with
    | (t, .error e) => (t, .error (.notWritten e))
    | (t, .ok (path, .written)) => (t, .ok (.written opts.outputDir [path] []))
    | (t, .ok (path, .skipped)) => (t, .ok (.written opts.outputDir [] [path]))

/-- An invalid API is reported and nothing is written. -/
def generate (t : FileTree) (apiPath : String) (api : Api) (options : Options)
    (opts : GenerateOptions) (elapsed : String → Nat) :
    FileTree × Except CommandError GenerateReport :=
  let pipeline : Pipeline (List Timing) :=
    ⟨options, [], if opts.verbose then [timer elapsed] else []⟩
  let (run, outcome) := pipeline.runCollecting api []
  let report (statistics : Option Statistics) (generation : Generation) : GenerateReport :=
    ⟨apiPath, api.version.map Version.render, .ofDiagnostics run.context.diagnostics,
      run.record, statistics, generation⟩
  match outcome with
  | .error e => (t, .ok (report none (.aborted e.message)))
  | .ok () =>
    match run.context.takeBindings.2, run.context.takeStatistics.2 with
    | .error e, _ => (t, .error (.failed e))
    | .ok _, .error e => (t, .error (.failed e))
    | .ok b, .ok statistics =>
      match emit t b opts with
      | (t, .error e) => (t, .error e)
      | (t, .ok generation) => (t, .ok (report (some statistics) generation))

end Operation

end BindingTables

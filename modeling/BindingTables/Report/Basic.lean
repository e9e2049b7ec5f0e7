import BindingTables.Decimal.Duration
import BindingTables.Diagnostic
import BindingTables.InputError
import BindingTables.Report.Output
import BindingTables.Report.Statistics
import BindingTables.Text.Blank

/-! What the commands report. -/

namespace BindingTables

/-- The texts of diagnostics by severity. -/
structure Summary where
  errors : List String
  warnings : List String
  infos : List String
deriving DecidableEq

/-- The message, and under it the marked places and the way out. -/
def InputError.render (e : InputError) : List Output :=
  .error e.message :: (e.labels.map fun (text, span) => .listItem s!"{text}: byte {span.start}")
    ++ e.help?.toList.map (.keyValueIndented "help" ·)

namespace Summary

def line (d : Diagnostic) : String :=
  match d.location with
  | none => d.message
  | some place => s!"{d.message}\n  --> {place}"

def empty : Summary := ⟨[], [], []⟩

/-- Adds the text of a diagnostic behind the others of its severity. -/
def push (s : Summary) (d : Diagnostic) : Summary :=
  match d.severity with
  | .error => { s with errors := s.errors ++ [line d] }
  | .warning => { s with warnings := s.warnings ++ [line d] }
  | .info => { s with infos := s.infos ++ [line d] }

def ofDiagnostics (ds : List Diagnostic) : Summary := ds.foldl push empty

def isEmpty (s : Summary) : Bool := s.errors.isEmpty && s.warnings.isEmpty && s.infos.isEmpty

def render (s : Summary) : List Output :=
  s.errors.map .error ++ s.warnings.map .warning
    ++ s.infos.map fun info => .preformatted s!"info: {info}"

end Summary

structure CheckReport where
  apiPath : String
  diagnostics : Summary
deriving DecidableEq

namespace CheckReport

def isValid (r : CheckReport) : Bool := r.diagnostics.errors.isEmpty

def render (r : CheckReport) : List Output :=
  r.diagnostics.render ++ (if r.diagnostics.isEmpty then [] else [.newline])
    ++ [.preformatted (if r.isValid then s!"✓ {r.apiPath} is valid"
      else s!"✗ {r.apiPath} has {r.diagnostics.errors.length} error(s)")]

end CheckReport

structure InfoReport where
  apiPath : String
  version : Option String
  fullName : Option String
  outputDir : String
  statistics : Statistics
  /-- The names and descriptions of the phases. -/
  phases : List (String × String)
  lints : List (String × String)
deriving DecidableEq

namespace InfoReport

def title (r : InfoReport) : String := r.fullName.getD "Godot extension API"

def rule (length : Nat) : String := .ofList (List.replicate length '─')

def numbered (n : Nat) : List (String × String) → List Output
  | [] => []
  | (name, description) :: rest =>
    .numberedItem n s!"{name} - {description}" :: numbered (n + 1) rest

def shownVersion (r : InfoReport) : String := r.version.getD "unknown"

def render (r : InfoReport) : List Output :=
  [.newline, .preformatted s!"  {r.title}",
    .preformatted s!"  {rule r.title.toList.length}", .newline,
    .preformatted s!"  Version     {r.shownVersion}", .preformatted s!"  API         {r.apiPath}",
    .preformatted s!"  Output      {r.outputDir}", .newline,
    .preformatted "  Bindings", .preformatted s!"  {rule 8}",
    .preformatted (r.statistics.render 1), .newline, .heading "Pipeline phases"]
    ++ numbered 1 r.phases ++ [.newline, .heading "Lints"]
    ++ r.lints.map fun (name, description) => .listItem s!"{name}: {description}"

end InfoReport

/-- How long a phase took, in nanoseconds, and the diagnostics on record after it. -/
structure Timing where
  phase : String
  elapsed : Nat
  diagnostics : Nat
deriving DecidableEq

inductive Generation
  | written (outputDir : String) (written unchanged : List String)
  /-- Files that would be written, with their content. -/
  | preview (files : List (String × String))
  | aborted (reason : String)
deriving DecidableEq

structure GenerateReport where
  apiPath : String
  version : Option String
  diagnostics : Summary
  timings : List Timing
  statistics : Option Statistics
  generation : Generation
deriving DecidableEq

namespace GenerateReport

def isSuccess (r : GenerateReport) : Bool :=
  match r.generation with
  | .aborted _ => false
  | _ => true

def renderTiming (t : Timing) : Output :=
  .keyValueIndented t.phase s!"{Decimal.duration t.elapsed}, {t.diagnostics} diagnostic(s)"

def renderTimings (r : GenerateReport) : List Output :=
  if r.timings.isEmpty then []
  else .heading "Phases" :: r.timings.map renderTiming ++ [.newline]

def shownVersion (r : GenerateReport) : String := r.version.getD "unknown version"

def renderStatistics (r : GenerateReport) : List Output :=
  match r.statistics with
  | none => []
  | some s => [.heading "Bindings", .preformatted (s.render 1), .newline]

def withoutBlankEnd (s : String) : String := .ofList (Text.trimEnd Text.isWhiteSpace s.toList)

def renderGeneration (r : GenerateReport) : List Output :=
  match r.generation with
  | .written dir written unchanged =>
    [.preformatted s!"{r.apiPath} (Godot {r.shownVersion})", .newline] ++ r.renderStatistics
      ++ [.keyValue "Generated" dir] ++ written.map .addedItem
      ++ unchanged.map fun path => .listItem s!"{path} (unchanged)"
  | .preview files =>
    files.flatMap (fun (path, content) => [.divider path, .preformatted (withoutBlankEnd content)])
      ++ [.divider "Summary", .preformatted s!"{files.length} file(s) would be generated"]
  | .aborted reason => [.error reason]

def render (r : GenerateReport) : List Output :=
  r.diagnostics.render ++ r.renderTimings ++ r.renderGeneration

end GenerateReport

end BindingTables

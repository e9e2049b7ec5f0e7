import BindingTables.Command.Operation
import BindingTables.Proofs.Pipeline.Observers

/-! Checking, generating and informing agree on whether an API is valid, on what there is to say of
it, and on the statistics. -/

namespace BindingTables

variable {api : Api} {o : Options} {t : FileTree} {ds : List Diagnostic}

namespace Summary

/-- The text that a summary has of a diagnostic: the message, and under it the place if there is
one. -/
inductive Shows : Diagnostic → String → Prop
  | bare {d : Diagnostic} : d.location = none → Shows d d.message
  | placed {d : Diagnostic} {place : String} : d.location = some place →
    Shows d (d.message ++ "\n  --> " ++ place)

/-- The text of each diagnostic stands once in the summary, under its severity and in order. -/
structure Splits (s : Summary) (ds : List Diagnostic) : Prop where
  errors : List.Forall₂ Shows (ds.filter (·.severity = .error)) s.errors
  warnings : List.Forall₂ Shows (ds.filter (·.severity = .warning)) s.warnings
  infos : List.Forall₂ Shows (ds.filter (·.severity = .info)) s.infos
  perm : ∃ texts, List.Forall₂ Shows ds texts ∧ (s.errors ++ s.warnings ++ s.infos).Perm texts

/-- The text that is put into a summary is the one that it is to have. -/
theorem shows_line (d : Diagnostic) : Shows d (line d) := by
  rw [line]
  cases h : d.location with
  | none => exact .bare h
  | some place => exact .placed h

theorem splits_empty : empty.Splits [] := ⟨.nil, .nil, .nil, [], .nil, .refl _⟩

/-- A diagnostic goes behind the others of its severity, and leaves the rest of the summary. -/
theorem splits_push {s : Summary} (h : s.Splits ds) (d : Diagnostic) :
    (s.push d).Splits (ds ++ [d]) := by
  have hnew {old : List Diagnostic} {texts : List String} (hold : List.Forall₂ Shows old texts) :
      List.Forall₂ Shows (old ++ [d]) (texts ++ [line d]) :=
    List.rel_append hold (.cons (shows_line d) .nil)
  obtain ⟨texts, hall, hperm⟩ := h.perm
  -- Wherever the text is put, it can move to the end of all texts.
  have hlast (front back : List String) (hparts : (front ++ back).Perm texts) :
      (front ++ line d :: back).Perm (texts ++ [line d]) :=
    List.perm_middle.trans ((hparts.cons _).trans (List.perm_append_singleton _ _).symm)
  rw [push]
  cases hd : d.severity with
  | error =>
    refine ⟨?_, ?_, ?_, _, hnew hall, ?_⟩
    · simpa [hd] using hnew h.errors
    · simpa [hd] using h.warnings
    · simpa [hd] using h.infos
    · simpa using hlast s.errors (s.warnings ++ s.infos) (by simpa using hperm)
  | warning =>
    refine ⟨?_, ?_, ?_, _, hnew hall, ?_⟩
    · simpa [hd] using h.errors
    · simpa [hd] using hnew h.warnings
    · simpa [hd] using h.infos
    · simpa using hlast (s.errors ++ s.warnings) s.infos hperm
  | info =>
    refine ⟨?_, ?_, ?_, _, hnew hall, ?_⟩
    · simpa [hd] using h.errors
    · simpa [hd] using h.warnings
    · simpa [hd] using hnew h.infos
    · rw [← List.append_assoc]
      exact hlast (s.errors ++ s.warnings ++ s.infos) [] (by simpa using hperm)

theorem splits_foldl {s : Summary} {before : List Diagnostic} (h : s.Splits before) :
    (ds.foldl push s).Splits (before ++ ds) := by
  induction ds generalizing s before with
  | nil => simpa using h
  | cons d ds ih => simpa using ih (splits_push h d)

theorem splits_ofDiagnostics (ds : List Diagnostic) : (ofDiagnostics ds).Splits ds :=
  splits_foldl splits_empty

theorem length_errors_ofDiagnostics (ds : List Diagnostic) :
    (ofDiagnostics ds).errors.length = (ds.filter (·.isError)).length :=
  (splits_ofDiagnostics ds).errors.length_eq.symm

theorem isEmpty_errors_ofDiagnostics (ds : List Diagnostic) :
    (ofDiagnostics ds).errors.isEmpty = !ds.any (·.isError) := by
  rw [Bool.eq_iff_iff, List.isEmpty_iff, ← List.length_eq_zero_iff, length_errors_ofDiagnostics]
  simp

end Summary

/-- A text can be written to the path, whichever it is. -/
def FileTree.Takes (t : FileTree) (path : String) : Prop :=
  ∀ text, ∃ outcome, (t.storeUnder .ifChanged path text).2 = .ok outcome

namespace Operation

variable {apiPath outputDir : String} {opts : GenerateOptions} {elapsed : String → Nat}

/-- The three reports are of one run, which left the diagnostics `ds`. -/
structure Agree (ds : List Diagnostic) (checked : CheckReport) (generated : GenerateReport)
    (informed : Except CommandError InfoReport) : Prop where
  valid_iff : checked.isValid = true ↔ ∀ d ∈ ds, d.severity ≠ .error
  success : generated.isSuccess = checked.isValid
  aborted_iff : (∃ reason, generated.generation = .aborted reason) ↔ checked.isValid = false
  informed_iff : (∃ report, informed = .ok report) ↔ checked.isValid = true
  summary : generated.diagnostics = checked.diagnostics
  splits : checked.diagnostics.Splits ds
  failure : checked.isValid = false →
    generated.generation
        = .aborted s!"validation failed with {checked.diagnostics.errors.length} error(s)" ∧
      generated.statistics = none ∧
      checked.render.getLast? = some (.preformatted
        s!"✗ {checked.apiPath} has {checked.diagnostics.errors.length} error(s)")
  statistics : ∀ report, informed = .ok report → generated.statistics = some report.statistics

theorem timer_observes (elapsed : String → Nat) : (timer elapsed).Observes :=
  fun _ => ⟨fun r => ⟨r.record, rfl⟩, fun _ => ⟨_, rfl⟩⟩

/-- A command that runs with or without the timer runs the standard phases and no more. -/
theorem runCollecting_timed (api : Api) (o : Options) (verbose : Bool) (elapsed : String → Nat) :
    ∃ timings,
      (⟨o, [], if verbose then [timer elapsed] else []⟩ : Pipeline (List Timing)).runCollecting
        api [] =
      if (Context.linted api o).hasErrors then
        (⟨.linted api o, timings⟩, .error (.invalid (Context.linted api o).errors.length))
      else (⟨.finished api o, timings⟩, .ok ()) := by
  have hobserve : ∀ plugin ∈ if verbose then [timer elapsed] else [], plugin.Observes := by
    intro plugin hmem
    cases verbose with
    | false => cases hmem
    | true =>
      rw [List.mem_singleton.mp hmem]
      exact timer_observes elapsed
  obtain ⟨timings, hrun⟩ := Pipeline.runCollecting_of_observers
    (p := ⟨o, [], if verbose then [timer elapsed] else []⟩) api [] rfl hobserve
  refine ⟨timings, hrun.trans ?_⟩
  rw [Pipeline.runCollecting_plain]
  by_cases he : (Context.linted api o).hasErrors
  · simp only [if_pos he]
  · simp only [if_neg he]

theorem emit_succeeds (b : Bindings)
    (hw : opts.dryRun = false → t.Takes (Path.join opts.outputDir Bindings.fileName)) :
    ∃ t' g, emit t b opts = (t', .ok g) ∧ ∀ reason, g ≠ .aborted reason := by
  rw [emit]
  split
  -- A dry run writes nothing and asks nothing of the files.
  · exact ⟨t, _, rfl, by simp⟩
  · rename_i hd
    obtain ⟨outcome, ho⟩ := hw (by simpa using hd) (b.document opts.pretty)
    obtain ⟨t', hstore⟩ : ∃ t', t.storeUnder .ifChanged
        (Path.join opts.outputDir Bindings.fileName) (b.document opts.pretty)
        = (t', .ok outcome) := ⟨_, Prod.ext rfl ho⟩
    simp only [Bindings.generate, hstore]
    cases outcome with
    | written => exact ⟨t', _, rfl, by simp⟩
    | skipped => exact ⟨t', _, rfl, by simp⟩

/-- What the lints find is all that the check reports, whether or not the run goes on. -/
theorem check_eq (apiPath : String) (api : Api) (o : Options) :
    check apiPath api o = ⟨apiPath, .ofDiagnostics (Lint.findings api o)⟩ := by
  change CheckReport.mk apiPath
    (.ofDiagnostics ((Pipeline.plain o).runCollecting api ()).1.context.diagnostics) = _
  rw [Pipeline.diagnostics_runCollecting_plain]

theorem isValid_check :
    (check apiPath api o).isValid = !(Context.linted api o).hasErrors := by
  rw [check_eq, CheckReport.isValid, Context.hasErrors_linted,
    Summary.isEmpty_errors_ofDiagnostics]

theorem isValid_check_iff : (check apiPath api o).isValid = true ↔
    ∀ d ∈ Lint.findings api o, d.severity ≠ .error := by
  rw [isValid_check, Context.hasErrors_linted]
  simp [Diagnostic.isError]

theorem splits_check : (check apiPath api o).diagnostics.Splits (Lint.findings api o) := by
  rw [check_eq]
  exact Summary.splits_ofDiagnostics _

theorem info_of_invalid (apiPath outputDir : String)
    (h : (Context.linted api o).hasErrors = true) :
    info apiPath api o outputDir
      = .error (.apiInvalid (.invalid (Context.linted api o).errors.length)) := by
  simp only [info, Pipeline.run, Pipeline.runCollecting_plain, if_pos h]

/-- The statistics that are told are those of the tables of the run. -/
theorem info_of_valid (apiPath outputDir : String)
    (h : (Context.linted api o).hasErrors = false) :
    ∃ report, info apiPath api o outputDir = .ok report ∧
      Statistics.compute? api o (api.lower o) = some report.statistics := by
  obtain ⟨s, hs, htake⟩ := Context.takeStatistics_finished api o
  simp only [info, Pipeline.run, Pipeline.runCollecting_plain, h, if_neg Bool.false_ne_true, htake]
  exact ⟨_, rfl, hs⟩

theorem generate_of_invalid (h : (Context.linted api o).hasErrors = true) :
    ∃ timings, generate t apiPath api o opts elapsed = (t, .ok ⟨apiPath,
      api.version.map Version.render, .ofDiagnostics (Lint.findings api o), timings, none,
      .aborted (Failure.invalid (Context.linted api o).errors.length).message⟩) := by
  obtain ⟨timings, hrun⟩ := runCollecting_timed api o opts.verbose elapsed
  rw [if_pos h] at hrun
  exact ⟨timings, by simp only [generate, hrun]; rfl⟩

/-- A generation whose lints pass reports, whatever becomes of the tables. -/
theorem generate_of_valid (h : (Context.linted api o).hasErrors = false)
    (hw : opts.dryRun = false → t.Takes (Path.join opts.outputDir Bindings.fileName)) :
    ∃ t' timings g, generate t apiPath api o opts elapsed = (t', .ok ⟨apiPath,
      api.version.map Version.render, .ofDiagnostics (Lint.findings api o), timings,
      Statistics.compute? api o (api.lower o), g⟩) ∧ ∀ reason, g ≠ .aborted reason := by
  obtain ⟨timings, hrun⟩ := runCollecting_timed api o opts.verbose elapsed
  have hn : ¬ (Context.linted api o).hasErrors = true := by simp [h]
  rw [if_neg hn] at hrun
  obtain ⟨t', g, hemit, hg⟩ := emit_succeeds (api.lower o) hw
  obtain ⟨s, hs, htake⟩ := Context.takeStatistics_finished api o
  refine ⟨t', timings, g, ?_, hg⟩
  simp only [generate, hrun, Context.takeBindings_finished, htake, hemit, hs]
  rfl

theorem agree_of_invalid (infoPath outputDir : String) {generated : GenerateReport}
    (h : (Context.linted api o).hasErrors = true)
    (hd : generated.diagnostics = .ofDiagnostics (Lint.findings api o))
    (hs : generated.statistics = none)
    (hg : generated.generation
      = .aborted (Failure.invalid (Context.linted api o).errors.length).message) :
    Agree (Lint.findings api o) (check apiPath api o) generated
      (info infoPath api o outputDir) := by
  have hvalid : (check apiPath api o).isValid = false := by rw [isValid_check, h]; rfl
  have hcount : (check apiPath api o).diagnostics.errors.length
      = (Context.linted api o).errors.length := by
    rw [check_eq]
    exact Summary.length_errors_ofDiagnostics _
  refine ⟨isValid_check_iff, ?_, by simp [hg, hvalid], ?_, by rw [hd, check_eq], splits_check, ?_,
    ?_⟩
  · rw [hvalid, GenerateReport.isSuccess, hg]
  · rw [info_of_invalid infoPath outputDir h, hvalid]
    simp
  · intro _
    refine ⟨by rw [hg, hcount]; rfl, hs, ?_⟩
    rw [CheckReport.render, hvalid]
    simp
  · intro report hreport
    rw [info_of_invalid infoPath outputDir h] at hreport
    cases hreport

theorem agree_of_valid (infoPath outputDir : String) {generated : GenerateReport}
    (h : (Context.linted api o).hasErrors = false)
    (hd : generated.diagnostics = .ofDiagnostics (Lint.findings api o))
    (hs : generated.statistics = Statistics.compute? api o (api.lower o))
    (hg : ∀ reason, generated.generation ≠ .aborted reason) :
    Agree (Lint.findings api o) (check apiPath api o) generated
      (info infoPath api o outputDir) := by
  have hvalid : (check apiPath api o).isValid = true := by rw [isValid_check, h]; rfl
  obtain ⟨report, hinfo, hstatistics⟩ := info_of_valid infoPath outputDir h
  refine ⟨isValid_check_iff, ?_, by simp [hg, hvalid], ?_, by rw [hd, check_eq], splits_check, ?_,
    ?_⟩
  · rw [hvalid, GenerateReport.isSuccess]
    split
    · rename_i reason hr
      exact absurd hr (hg reason)
    · rfl
  · rw [hinfo, hvalid]
    simp
  · intro hfalse
    rw [hvalid] at hfalse
    cases hfalse
  · intro report' hreport
    rw [hinfo] at hreport
    cases hreport
    rw [hs, hstatistics]

end Operation

/-- If files can be written, a generation reports in any case; it is aborted, the check fails and
there is no information exactly when the one run that they share has an error on record. -/
theorem operations_agree (t : FileTree) (apiPath infoPath infoDir : String) (api : Api)
    (o : Options) (opts : Operation.GenerateOptions) (elapsed : String → Nat)
    (hw : opts.dryRun = false → t.Takes (Path.join opts.outputDir Bindings.fileName)) :
    ∃ generated, (Operation.generate t apiPath api o opts elapsed).2 = .ok generated ∧
      Operation.Agree ((Pipeline.plain o).runCollecting api ()).1.context.diagnostics
        (Operation.check apiPath api o) generated (Operation.info infoPath api o infoDir) := by
  rw [Pipeline.diagnostics_runCollecting_plain]
  cases h : (Context.linted api o).hasErrors with
  | true =>
    obtain ⟨timings, hgenerate⟩ := Operation.generate_of_invalid h
    exact ⟨_, by rw [hgenerate], Operation.agree_of_invalid infoPath infoDir h rfl rfl rfl⟩
  | false =>
    obtain ⟨t', timings, g, hgenerate, hg⟩ := Operation.generate_of_valid h hw
    exact ⟨_, by rw [hgenerate], Operation.agree_of_valid infoPath infoDir h rfl rfl hg⟩

namespace FileTree

def bare : FileTree := ⟨[], [], [], "/"⟩

theorem takes_bare : bare.Takes (Path.join "gen" Bindings.fileName) := by
  intro text
  have hread : bare.readText (Path.join "gen" Bindings.fileName) = none := by decide
  refine ⟨.written, ?_⟩
  rw [storeUnder, if_neg (by simp [hread])]
  rfl

end FileTree

/-- Its setter is missing, which is worth a warning. -/
def sliderApi : Api where
  header := none
  globalEnums := []
  utilityFunctions := []
  builtinClasses := []
  classes := [⟨"Range", none, false, true,
    [⟨"get_value", false, false, false, false, [], none, none⟩],
    [⟨"value", "float", some "set_value", some "get_value"⟩], [], []⟩]
  singletons := []

theorem slider_operations_agree : FileTree.bare.Takes (Path.join "gen" Bindings.fileName) ∧
    ∃ generated, (Operation.generate .bare "api.json" sliderApi .standard
        ⟨"gen", true, false, true⟩ fun _ => 0).2 = .ok generated ∧
      Operation.Agree ((Pipeline.plain .standard).runCollecting sliderApi ()).1.context.diagnostics
        (Operation.check "api.json" sliderApi .standard) generated
        (Operation.info "/api.json" sliderApi .standard "gen") :=
  ⟨FileTree.takes_bare, operations_agree .bare "api.json" "/api.json" "gen" sliderApi .standard
    ⟨"gen", true, false, true⟩ (fun _ => 0) fun _ => FileTree.takes_bare⟩

end BindingTables

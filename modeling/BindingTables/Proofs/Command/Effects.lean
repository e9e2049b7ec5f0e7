import BindingTables.Proofs.Command.Agreement
import BindingTables.Proofs.Files.Writing

/-! What generating does to the files: nothing if it is aborted or dry, and else it brings the one
file of the tables to the text that a dry run shows. -/

namespace BindingTables

open BindingTables.Text

namespace Operation

variable {t t' : FileTree} {apiPath : String} {api : Api} {o : Options} {opts : GenerateOptions}
  {elapsed : String → Nat} {b : Bindings} {text : String} {report : GenerateReport}

/-- The path of the file that the tables are written to. -/
def GenerateOptions.tablesPath (opts : GenerateOptions) : String :=
  Path.join opts.outputDir Bindings.fileName

/-- The text of the tables of an API. -/
def GenerateOptions.tablesText (opts : GenerateOptions) (api : Api) (o : Options) : String :=
  (api.lower o).document opts.pretty

/-! One generation. -/

theorem pipeline_error_iff {e : Failure} : (Pipeline.plain o).run api () = .error e ↔
    (Context.linted api o).hasErrors = true ∧
      e = .invalid (Context.linted api o).errors.length := by
  simp only [Pipeline.run, Pipeline.runCollecting_plain]
  cases (Context.linted api o).hasErrors <;> simp [eq_comm]

/-- When the lints pass, what becomes of the tables is what becomes of the generation. -/
theorem generate_of_clean (h : (Context.linted api o).hasErrors = false) :
    ∃ report : Generation → GenerateReport, (∀ g, (report g).generation = g) ∧
      generate t apiPath api o opts elapsed =
        ((emit t (api.lower o) opts).1, (emit t (api.lower o) opts).2.map report) := by
  obtain ⟨timings, hrun⟩ := runCollecting_timed api o opts.verbose elapsed
  have hn : ¬ (Context.linted api o).hasErrors = true := by simp [h]
  rw [if_neg hn] at hrun
  obtain ⟨s, -, htake⟩ := Context.takeStatistics_finished api o
  refine ⟨fun g => ⟨apiPath, api.version.map Version.render,
    .ofDiagnostics (Context.finished api o).diagnostics, timings, some s, g⟩, fun _ => rfl, ?_⟩
  rcases hemit : emit t (api.lower o) opts with ⟨t', _ | g⟩ <;>
    simp only [generate, hrun, Context.takeBindings_finished, htake, hemit] <;> rfl

theorem emit_of_dryRun (h : opts.dryRun = true) : emit t b opts =
    (t, .ok (.preview [(Bindings.fileName, b.document opts.pretty)])) := by
  rw [emit, if_pos h]
  rfl

/-- How a write of the tables is reported. -/
def listing (opts : GenerateOptions) : WriteOutcome → Generation
  | .written => .written opts.outputDir [opts.tablesPath] []
  | .skipped => .written opts.outputDir [] [opts.tablesPath]

theorem emit_of_write (h : opts.dryRun = false) : emit t b opts =
    ((t.storeUnder .ifChanged opts.tablesPath (b.document opts.pretty)).1,
      match (t.storeUnder .ifChanged opts.tablesPath (b.document opts.pretty)).2 with
      | .error e => .error (.notWritten e)
      | .ok outcome => .ok (listing opts outcome)) := by
  simp only [emit, h, Bindings.generate, GenerateOptions.tablesPath]
  rcases hstore : t.storeUnder .ifChanged (Path.join opts.outputDir Bindings.fileName)
    (b.document opts.pretty) with ⟨t', _ | _ | _⟩ <;> simp [listing, GenerateOptions.tablesPath]

/-- All that a generation of an API can come to, with what it asks of the run and of the tree. -/
inductive Generates (t : FileTree) (api : Api) (o : Options) (opts : GenerateOptions) :
    FileTree → Except CommandError GenerateReport → Prop
  | aborted {e : Failure} {report : GenerateReport}
      (run : (Pipeline.plain o).run api () = .error e)
      (told : report.generation = .aborted e.message) : Generates t api o opts t (.ok report)
  | previewed {report : GenerateReport}
      (run : (Context.linted api o).hasErrors = false) (dry : opts.dryRun = true)
      (told : report.generation = .preview [(Bindings.fileName, opts.tablesText api o)]) :
      Generates t api o opts t (.ok report)
  | stored {t' : FileTree} {outcome : WriteOutcome} {report : GenerateReport}
      (run : (Context.linted api o).hasErrors = false) (wet : opts.dryRun = false)
      (store : t.storeUnder .ifChanged opts.tablesPath (opts.tablesText api o) = (t', .ok outcome))
      (told : report.generation = listing opts outcome) : Generates t api o opts t' (.ok report)
  | refused {t' : FileTree} {e : WriteFailure}
      (run : (Context.linted api o).hasErrors = false) (wet : opts.dryRun = false)
      (store : t.storeUnder .ifChanged opts.tablesPath (opts.tablesText api o) = (t', .error e)) :
      Generates t api o opts t' (.error (.notWritten e))

/-- A generation comes to one of four ends. -/
theorem generates (t : FileTree) (apiPath : String) (api : Api) (o : Options)
    (opts : GenerateOptions) (elapsed : String → Nat) :
    Generates t api o opts (generate t apiPath api o opts elapsed).1
      (generate t apiPath api o opts elapsed).2 := by
  cases run : (Context.linted api o).hasErrors with
  -- The pipeline has stopped before there are tables.
  | true =>
    obtain ⟨timings, hgenerate⟩ := generate_of_invalid run
    rw [hgenerate]
    exact .aborted (pipeline_error_iff.mpr ⟨run, rfl⟩) rfl
  | false =>
    obtain ⟨report, htold, hgenerate⟩ := generate_of_clean run
    rw [hgenerate]
    cases hdry : opts.dryRun with
    | true =>
      rw [emit_of_dryRun hdry]
      exact .previewed run hdry (htold _)
    | false =>
      rw [emit_of_write hdry]
      rcases hstore : t.storeUnder .ifChanged opts.tablesPath ((api.lower o).document opts.pretty)
        with ⟨t', e | outcome⟩
      · exact .refused run hdry hstore
      · exact .stored run hdry hstore (htold _)

/-- The generation ran through, and reports it. -/
def Succeeds (t : FileTree) (apiPath : String) (api : Api) (o : Options) (opts : GenerateOptions)
    (elapsed : String → Nat) (t' : FileTree) (report : GenerateReport) : Prop :=
  generate t apiPath api o opts elapsed = (t', .ok report) ∧ report.isSuccess = true

theorem isSuccess_of_aborted {reason : String} (h : report.generation = .aborted reason) :
    report.isSuccess = false := by
  rw [GenerateReport.isSuccess, h]

theorem isSuccess_of_listing {outcome : WriteOutcome}
    (h : report.generation = listing opts outcome) : report.isSuccess = true := by
  cases outcome <;> simp [GenerateReport.isSuccess, h, listing]

theorem isSuccess_of_preview {files : List (String × String)}
    (h : report.generation = .preview files) : report.isSuccess = true := by
  rw [GenerateReport.isSuccess, h]

/-- A success that is no dry run has stored the text of the tables. -/
theorem Succeeds.stored (h : Succeeds t apiPath api o opts elapsed t' report)
    (hwet : opts.dryRun = false) : (Context.linted api o).hasErrors = false ∧
      ∃ outcome, t.storeUnder .ifChanged opts.tablesPath (opts.tablesText api o)
          = (t', .ok outcome) ∧ report.generation = listing opts outcome := by
  obtain ⟨hgenerate, hsuccess⟩ := h
  have hcases := generates t apiPath api o opts elapsed
  rw [hgenerate] at hcases
  cases hcases with
  | aborted run told => simp [isSuccess_of_aborted told] at hsuccess
  | previewed run dry told => simp [hwet] at dry
  | stored run wet store told => exact ⟨run, _, store, told⟩

/-- Once the file of the tables holds their text, generating finds nothing to do. -/
theorem succeeds_of_read (apiPath : String) (elapsed : String → Nat)
    (run : (Context.linted api o).hasErrors = false) (wet : opts.dryRun = false)
    (hread : t.read opts.tablesPath = some (bytes (opts.tablesText api o))) :
    ∃ report, Succeeds t apiPath api o opts elapsed t report ∧
      report.generation = .written opts.outputDir [] [opts.tablesPath] := by
  obtain ⟨report, htold, hgenerate⟩ := generate_of_clean run
  rw [emit_of_write wet] at hgenerate
  have hskip := FileTree.storeUnder_of_read hread
  rw [GenerateOptions.tablesText] at hskip
  rw [hskip] at hgenerate
  exact ⟨_, ⟨hgenerate, isSuccess_of_listing (htold _)⟩, htold _⟩

/-! What the files look like afterwards. -/

/-- The report names the file of the tables once, as unchanged if it was right before. -/
def Lists (report : GenerateReport) (dir path : String) (unchanged : Prop) : Prop :=
  ∃ w u, report.generation = .written dir w u ∧ (w = [path] ∧ u = [] ∨ w = [] ∧ u = [path]) ∧
    (path ∈ u ↔ unchanged)

/-- The outcome of the write decides on which list the file is. -/
theorem lists_of_stored {outcome : WriteOutcome}
    (store : t.storeUnder .ifChanged opts.tablesPath text = (t', .ok outcome))
    (told : report.generation = listing opts outcome) :
    Lists report opts.outputDir opts.tablesPath (t.read opts.tablesPath = some (bytes text)) := by
  have hskipped : outcome = .skipped ↔ t.read opts.tablesPath = some (bytes text) := by
    rw [← (t.rulesAgree opts.tablesPath text).skipped_iff, store]
    simp
  cases outcome with
  | written => exact ⟨_, _, told, .inl ⟨rfl, rfl⟩, by simp [← hskipped]⟩
  | skipped => exact ⟨_, _, told, .inr ⟨rfl, rfl⟩, by simp [← hskipped]⟩

/-- What generating does to the files of one tree. -/
structure Effects (t : FileTree) (apiPath : String) (api : Api) (o : Options)
    (opts : GenerateOptions) (elapsed : String → Nat) : Prop where
  aborted : ∀ e, (Pipeline.plain o).run api () = .error e →
    ∃ report, generate t apiPath api o opts elapsed = (t, .ok report) ∧
      report.generation = .aborted e.message
  dry : opts.dryRun = true → (generate t apiPath api o opts elapsed).1 = t
  failed : ∀ e, (generate t apiPath api o opts elapsed).2 = .error e →
    (generate t apiPath api o opts elapsed).1.files = t.files
  /-- A dry run shows what a run that is not dry leaves in the file. -/
  preview : opts.dryRun = true → ∀ t' report, Succeeds t apiPath api o opts elapsed t' report →
    ∃ text, report.generation = .preview [(Bindings.fileName, text)] ∧
      ∀ elapsed' t' report',
        Succeeds t apiPath api o { opts with dryRun := false } elapsed' t' report' →
          t'.read opts.tablesPath = some (bytes text)
  written : opts.dryRun = false → ∀ t' report, Succeeds t apiPath api o opts elapsed t' report →
    ∃ text, t.Written opts.tablesPath text t' ∧
      Lists report opts.outputDir opts.tablesPath (t.read opts.tablesPath = some (bytes text))
  again : opts.dryRun = false → ∀ t' report, Succeeds t apiPath api o opts elapsed t' report →
    ∀ elapsed', ∃ report', Succeeds t' apiPath api o opts elapsed' t' report' ∧
      report'.generation = .written opts.outputDir [] [opts.tablesPath]
  succeeds_iff : t.Consistent → ((∃ t' report, Succeeds t apiPath api o opts elapsed t' report) ↔
    (∃ r, (Pipeline.plain o).run api () = .ok r) ∧
      (opts.dryRun = false → t.Admits opts.tablesPath))

theorem generate_of_error {e : Failure} (apiPath : String) (opts : GenerateOptions)
    (elapsed : String → Nat) (h : (Pipeline.plain o).run api () = .error e) :
    ∃ report, generate t apiPath api o opts elapsed = (t, .ok report) ∧
      report.generation = .aborted e.message := by
  obtain ⟨hrun, rfl⟩ := pipeline_error_iff.mp h
  obtain ⟨timings, hgenerate⟩ := generate_of_invalid hrun
  exact ⟨_, hgenerate, rfl⟩

theorem pipeline_ok_iff :
    (∃ r, (Pipeline.plain o).run api () = .ok r) ↔ (Context.linted api o).hasErrors = false := by
  cases hrun : (Pipeline.plain o).run api () with
  | error e => simp [(pipeline_error_iff.mp hrun).1]
  | ok r =>
    have hclean : (Context.linted api o).hasErrors = false := Bool.eq_false_iff.mpr fun h => by
      rw [pipeline_error_iff.mpr ⟨h, rfl⟩] at hrun
      cases hrun
    simp [hclean]

theorem generate_of_dryRun (h : opts.dryRun = true) :
    (generate t apiPath api o opts elapsed).1 = t := by
  have hcases := generates t apiPath api o opts elapsed
  generalize generate t apiPath api o opts elapsed = out at hcases ⊢
  obtain ⟨t', outcome⟩ := out
  cases hcases with
  | aborted => rfl
  | previewed => rfl
  | stored run wet => simp [h] at wet
  | refused run wet => simp [h] at wet

theorem files_of_failed {e : CommandError}
    (h : generate t apiPath api o opts elapsed = (t', .error e)) : t'.files = t.files := by
  have hcases := generates t apiPath api o opts elapsed
  rw [h] at hcases
  cases hcases with
  | refused run wet store => exact (FileTree.storeUnder_error store).1

theorem Succeeds.previewed (h : Succeeds t apiPath api o opts elapsed t' report)
    (hdry : opts.dryRun = true) : (Context.linted api o).hasErrors = false ∧
      report.generation = .preview [(Bindings.fileName, opts.tablesText api o)] := by
  obtain ⟨hgenerate, hsuccess⟩ := h
  have hcases := generates t apiPath api o opts elapsed
  rw [hgenerate] at hcases
  cases hcases with
  | aborted run told => simp [isSuccess_of_aborted told] at hsuccess
  | previewed run dry told => exact ⟨run, told⟩
  | stored run wet => simp [hdry] at wet

theorem succeeds_iff (ht : t.Consistent) :
    (∃ t' report, Succeeds t apiPath api o opts elapsed t' report) ↔
      (∃ r, (Pipeline.plain o).run api () = .ok r) ∧
        (opts.dryRun = false → t.Admits opts.tablesPath) := by
  rw [pipeline_ok_iff]
  have hadmits : (∃ outcome, (t.storeUnder .ifChanged opts.tablesPath
      (opts.tablesText api o)).2 = .ok outcome) ↔ t.Admits opts.tablesPath :=
    FileTree.storeUnder_succeeds_iff .ifChanged ht
  have hcases := generates t apiPath api o opts elapsed
  unfold Succeeds
  generalize generate t apiPath api o opts elapsed = out at hcases ⊢
  obtain ⟨t₁, outcome⟩ := out
  cases hcases with
  | aborted run told =>
    simp [(pipeline_error_iff.mp run).1, isSuccess_of_aborted told]
  | previewed run dry told =>
    exact iff_of_true ⟨_, _, rfl, isSuccess_of_preview told⟩ ⟨run, by simp [dry]⟩
  | stored run wet store told =>
    refine iff_of_true ⟨_, _, rfl, isSuccess_of_listing told⟩ ⟨run, fun _ => hadmits.mp ?_⟩
    exact ⟨_, by rw [store]⟩
  | refused run wet store => simp [run, wet, ← hadmits, store]

/-- An aborted, dry or failed generation leaves every file as it was; any other brings the one file
of the tables to the text that a dry run shows, lists it as unchanged if it held that text, and has
nothing left to do when it is repeated. -/
theorem generating_writes_the_preview (t : FileTree) (apiPath : String) (api : Api) (o : Options)
    (opts : GenerateOptions) (elapsed : String → Nat) : Effects t apiPath api o opts elapsed where
  aborted e h := generate_of_error apiPath opts elapsed h
  dry h := generate_of_dryRun h
  failed e h := files_of_failed (Prod.ext rfl h)
  preview hdry t' report h := by
    refine ⟨_, (h.previewed hdry).2, fun elapsed' t' report' h' => ?_⟩
    obtain ⟨-, outcome, store, -⟩ := h'.stored rfl
    exact (FileTree.storeUnder_ok store).reads
  written hwet t' report h := by
    obtain ⟨-, outcome, store, told⟩ := h.stored hwet
    exact ⟨_, FileTree.storeUnder_ok store, lists_of_stored store told⟩
  again hwet t' report h elapsed' := by
    obtain ⟨run, outcome, store, -⟩ := h.stored hwet
    exact succeeds_of_read apiPath elapsed' run hwet (FileTree.storeUnder_ok store).reads
  succeeds_iff ht := succeeds_iff ht

end Operation

end BindingTables

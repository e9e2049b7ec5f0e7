import BindingTables.Pipeline.Basic
import BindingTables.Proofs.Statistics.Counting

/-! What a run of the standard phases alone comes to. -/

namespace BindingTables

variable {σ : Type} {api : Api} {o : Options} {record : σ}

/-- All that the standard lints report, in their order. -/
def Lint.findings (api : Api) (o : Options) : List Diagnostic :=
  Lint.standard.flatMap fun lint => lint.check api o

theorem Lint.mem_findings {lint : Lint} {d : Diagnostic} (hl : lint ∈ Lint.standard)
    (hd : d ∈ lint.check api o) : d ∈ Lint.findings api o :=
  List.mem_flatMap_of_mem hl hd

namespace Context

/-- The context in which a run finds itself when the lints are done. -/
def linted (api : Api) (o : Options) : Context := ⟨api, o, none, none, Lint.findings api o⟩

/-- The context in which a run without errors ends. -/
def finished (api : Api) (o : Options) : Context :=
  ⟨api, o, some (api.lower o), Statistics.compute? api o (api.lower o), Lint.findings api o⟩

theorem hasErrors_linted : (linted api o).hasErrors = (Lint.findings api o).any (·.isError) := rfl

theorem validate_start : (start api o).validate Lint.standard =
    if (linted api o).hasErrors then (linted api o, .error (.invalid (linted api o).errors.length))
    else (linted api o, .ok ()) := rfl

theorem analyze_lower_linted : (linted api o).lower.analyze = (finished api o, .ok ()) := by
  obtain ⟨s, hs⟩ := Statistics.exists_compute?_lower api o
  simp only [lower, linted, analyze, finished, hs]

theorem takeBindings_finished : (finished api o).takeBindings.2 = .ok (api.lower o) := rfl

theorem takeStatistics_finished (api : Api) (o : Options) :
    ∃ s, Statistics.compute? api o (api.lower o) = some s ∧
    (finished api o).takeStatistics.2 = .ok s := by
  obtain ⟨s, hs⟩ := Statistics.exists_compute?_lower api o
  exact ⟨s, hs, by simp only [takeStatistics, finished, hs]⟩

end Context

namespace Pipeline

/-- Without plugins a phase is no more than its run. -/
theorem runPhase_plain (phase : Phase σ) (r : Run σ) :
    (plain o).runPhase phase r = phase.run r := by
  have hp : (plain o : Pipeline σ).plugins = [] := rfl
  simp only [runPhase, hp, callPlugins]
  rcases phase.run r with ⟨r', _ | _⟩ <;> rfl

/-- Only the lints can end the run early. -/
theorem runCollecting_plain : (plain o).runCollecting api record =
    if (Context.linted api o).hasErrors then
      (⟨.linted api o, record⟩, .error (.invalid (Context.linted api o).errors.length))
    else (⟨.finished api o, record⟩, .ok ()) := by
  have hphases : (plain o : Pipeline σ).allPhases = Phase.standard σ := List.append_nil _
  have ho : (plain o : Pipeline σ).options = o := rfl
  rw [runCollecting, hphases, ho, Phase.standard]
  by_cases he : (Context.linted api o).hasErrors
  · simp only [runPhases, runPhase_plain, Phase.validate, Step.ofContext, Context.validate_start,
      if_pos he]
  · simp only [runPhases, runPhase_plain, Phase.validate, Phase.lower, Phase.analyze,
      Step.ofContext, Context.validate_start, if_neg he, Context.analyze_lower_linted]

/-- The phases behind the lints have nothing to report. -/
theorem diagnostics_runCollecting_plain :
    ((plain o).runCollecting api record).1.context.diagnostics = Lint.findings api o := by
  rw [runCollecting_plain]
  split <;> rfl

theorem runCollecting_plain_ok_iff : ((plain o).runCollecting api record).2 = .ok () ↔
    ∀ d ∈ Lint.findings api o, d.isError = false := by
  rw [runCollecting_plain]
  split
  · rename_i he
    simp only [Context.hasErrors_linted, List.any_eq_true] at he
    simpa using he
  · rename_i he
    simpa [Context.hasErrors_linted] using he

theorem runCollecting_plain_of_ok (h : ((plain o).runCollecting api record).2 = .ok ()) :
    ((plain o).runCollecting api record).1 = ⟨.finished api o, record⟩ := by
  rw [runCollecting_plain] at h ⊢
  split at h
  · cases h
  · rename_i he
    rw [if_neg he]

theorem bindings_runCollecting_plain (h : ((plain o).runCollecting api record).2 = .ok ()) :
    ((plain o).runCollecting api record).1.context.bindings = some (api.lower o) := by
  rw [runCollecting_plain_of_ok h]
  rfl

end Pipeline

end BindingTables

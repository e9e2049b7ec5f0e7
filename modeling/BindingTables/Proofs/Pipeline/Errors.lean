import BindingTables.Pipeline.Action
import BindingTables.Proofs.Pipeline.Steps

/-! When an error on record ends a run. Only the lints look at the record, so an error that comes
later than they do is passed over unless a step fails for a reason of its own. -/

namespace BindingTables

variable {σ : Type} {r r' : Run σ} {api : Api} {record : σ}

namespace Step

/-- Where the step ends well, errors on record were there before it. -/
def AddsNoError (step : Step σ) : Prop :=
  ∀ r r', step r = (r', .ok ()) → r'.context.hasErrors = true → r.context.hasErrors = true

theorem addsNoError_sequence {xs : List (Step σ)} (h : ∀ x ∈ xs, AddsNoError x) :
    AddsNoError (sequence xs) := by
  induction xs with
  | nil =>
    intro r r' hr he
    cases hr
    exact he
  | cons x xs ih =>
    intro r r' hr he
    obtain ⟨u, hx, hrest⟩ := sequence_cons_eq_ok hr
    have hu := ih (fun y hy => h y (List.mem_cons_of_mem x hy)) u r' hrest he
    exact h x List.mem_cons_self r u hx hu

end Step

namespace Phase

/-- The lints let no error pass, whoever it is from. -/
theorem hasErrors_of_validate {lints : List Lint} (h : (validate σ lints).run r = (r', .ok ())) :
    r'.context.hasErrors = false := by
  simp only [validate, Step.ofContext, Context.validate] at h
  split at h
  · cases h
  · rename_i hn
    cases h
    simpa using hn

theorem addsNoError_lower : Step.AddsNoError (lower σ).run := by
  intro r r' h he
  cases h
  exact he

theorem addsNoError_analyze : Step.AddsNoError (analyze σ).run := by
  intro r r' h he
  simp only [analyze, Step.ofContext, Context.analyze] at h
  split at h
  · cases h
  · split at h
    · cases h
    · cases h
      exact he

end Phase

def Plugin.AddsNoError (plugin : Plugin σ) : Prop :=
  ∀ phase, Step.AddsNoError (plugin.before phase) ∧ Step.AddsNoError (plugin.after phase)

namespace Pipeline

variable {p : Pipeline σ} {phase : Phase σ} {pre post phases : List (Phase σ)}

/-- The run ends in failure, and none but the steps of the first phases are taken in it. -/
structure StopsWithin (p : Pipeline σ) (api : Api) (record : σ) (phases : List (Phase σ)) :
    Prop where
  failed : ∃ e, (p.runCollecting api record).2 = .error e
  taken : Step.taken (p.steps p.allPhases) (p.start api record) ≤ (p.steps phases).length

/-- Whichever phase the run comes to, an error on record at its end stops the run there. -/
def ErrorsStop (p : Pipeline σ) (api : Api) (record : σ) : Prop :=
  ∀ pre phase post r, p.allPhases = pre ++ phase :: post →
    p.runPhases pre (p.start api record) = (r, .ok ()) →
    (p.runPhase phase r).1.context.hasErrors = true →
    p.StopsWithin api record (pre ++ [phase])

/-- The run comes to the phase, which ends well and leaves `r'`. -/
def EndsWell (p : Pipeline σ) (api : Api) (record : σ) (phase : Phase σ) (r' : Run σ) : Prop :=
  ∃ pre post r, p.allPhases = pre ++ phase :: post ∧
    p.runPhases pre (p.start api record) = (r, .ok ()) ∧ p.runPhase phase r = (r', .ok ())

theorem runPhases_concat (p : Pipeline σ) (pre : List (Phase σ)) (phase : Phase σ)
    (h : p.runPhases pre r = (r', .ok ())) :
    p.runPhases (pre ++ [phase]) r = p.runPhase phase r' := by
  rw [runPhases_eq_sequence] at h ⊢
  rw [steps_append, Step.sequence_append_of_ok h, runPhase_eq_sequence, steps,
    List.flatMap_singleton]

/-- What is on record does not matter: the run stops with a phase if that phase fails. -/
theorem stopsWithin_iff (hp : p.allPhases = pre ++ phase :: post)
    (hr : p.runPhases pre (p.start api record) = (r, .ok ())) :
    p.StopsWithin api record (pre ++ [phase]) ↔ ∃ e, (p.runPhase phase r).2 = .error e := by
  have hsplit : p.allPhases = (pre ++ [phase]) ++ post := by
    rw [hp, List.append_assoc, List.singleton_append]
  have hphase : Step.sequence (p.steps (pre ++ [phase])) (p.start api record)
      = p.runPhase phase r := by
    rw [← runPhases_eq_sequence, runPhases_concat p pre phase hr]
  rcases hres : p.runPhase phase r with ⟨r', e | _⟩
  · rw [hres] at hphase
    refine ⟨fun _ => ⟨e, rfl⟩, fun _ => ⟨⟨e, ?_⟩, ?_⟩⟩
    · rw [runCollecting_eq_sequence, hsplit, steps_append, Step.sequence_append_of_error hphase]
    · rw [hsplit, steps_append]
      exact Step.taken_append_of_error hphase
  · rw [hres] at hphase
    constructor
    · rintro ⟨⟨e, he⟩, ht⟩
      rw [hsplit, steps_append, Step.taken_append_of_ok hphase] at ht
      cases post with
      | nil =>
        rw [runCollecting_eq_sequence, hsplit, List.append_nil, hphase] at he
        cases he
      | cons next post =>
        have hnext := Step.taken_pos (r := r') (p.steps_ne_nil (List.cons_ne_nil next post))
        omega
    · rintro ⟨e, he⟩
      cases he

/-- Errors stop the run exactly if no phase that ends well leaves one on record. -/
theorem errorsStop_iff_endsWell : p.ErrorsStop api record ↔
    ∀ phase r', p.EndsWell api record phase r' → r'.context.hasErrors = false := by
  constructor
  · rintro h phase r' ⟨pre, post, r, hp, hr, hphase⟩
    cases he : r'.context.hasErrors with
    | false => rfl
    | true =>
      have hstop := h pre phase post r hp hr (by rw [hphase]; exact he)
      obtain ⟨e, hfail⟩ := (stopsWithin_iff hp hr).mp hstop
      rw [hphase] at hfail
      cases hfail
  · intro h pre phase post r hp hr he
    rw [stopsWithin_iff hp hr]
    rcases hphase : p.runPhase phase r with ⟨r', e | _⟩
    · exact ⟨e, rfl⟩
    · have hn := h phase r' ⟨pre, post, r, hp, hr, hphase⟩
      rw [hphase, hn] at he
      cases he

theorem addsNoError_runPhases (hplugins : ∀ plugin ∈ p.plugins, plugin.AddsNoError)
    (hphases : ∀ phase ∈ phases, Step.AddsNoError phase.run) :
    Step.AddsNoError (p.runPhases phases) := by
  have hseq : p.runPhases phases = Step.sequence (p.steps phases) :=
    funext (runPhases_eq_sequence p phases)
  rw [hseq]
  apply Step.addsNoError_sequence
  intro x hx
  obtain ⟨phase, hphase, hx⟩ := List.mem_flatMap.mp hx
  rw [phaseSteps, List.mem_append, List.mem_cons, List.mem_map, List.mem_map] at hx
  rcases hx with ⟨plugin, hmem, rfl⟩ | rfl | ⟨plugin, hmem, rfl⟩
  · exact (hplugins plugin hmem phase.name).1
  · exact hphases phase hphase
  · exact (hplugins plugin hmem phase.name).2

/-- Behind the lints the record is free of errors, and hooks that add none keep it so. -/
theorem hasErrors_of_runPhase_validate {lints : List Lint}
    (hplugins : ∀ plugin ∈ p.plugins, plugin.AddsNoError)
    (h : p.runPhase (.validate σ lints) r = (r', .ok ())) : r'.context.hasErrors = false := by
  rw [runPhase_eq_sequence, phaseSteps] at h
  obtain ⟨u, -, hrest⟩ := Step.sequence_append_eq_ok h
  obtain ⟨v, hrun, hhooks⟩ := Step.sequence_cons_eq_ok hrest
  have hclean := Phase.hasErrors_of_validate hrun
  have hafter : Step.AddsNoError (Step.sequence
      (p.plugins.map (·.after (Phase.validate σ lints).name))) := by
    apply Step.addsNoError_sequence
    intro x hx
    obtain ⟨plugin, hmem, rfl⟩ := List.mem_map.mp hx
    exact (hplugins plugin hmem _).2
  cases he : r'.context.hasErrors with
  | false => rfl
  | true => rw [← hclean, hafter v r' hhooks he]

/-- However far a run has come, it began with the standard lints. -/
theorem eq_validate_cons (hp : p.allPhases = pre ++ phase :: post) :
    ∃ rest, pre ++ [phase] = .validate σ Lint.standard :: rest ∧
      ∀ q ∈ rest, q = .lower σ ∨ q = .analyze σ ∨ q ∈ p.phases := by
  have hall : p.allPhases
      = .validate σ Lint.standard :: .lower σ :: .analyze σ :: p.phases := rfl
  rw [hall] at hp
  cases pre with
  | nil =>
    obtain ⟨rfl, -⟩ := List.cons.inj hp
    exact ⟨[], rfl, by simp⟩
  | cons first pre =>
    rw [List.cons_append] at hp
    obtain ⟨rfl, htail⟩ := List.cons.inj hp
    refine ⟨pre ++ [phase], rfl, ?_⟩
    intro q hq
    have hmem : q ∈ Phase.lower σ :: Phase.analyze σ :: p.phases := by
      rw [htail, ← List.singleton_append, ← List.append_assoc]
      exact List.mem_append_left post hq
    simpa using hmem

/-- Errors stop the run if none comes from a hook or from a phase behind the standard ones. -/
theorem errorsStop_of_addsNoError (hplugins : ∀ plugin ∈ p.plugins, plugin.AddsNoError)
    (hphases : ∀ phase ∈ p.phases, Step.AddsNoError phase.run) : p.ErrorsStop api record := by
  rw [errorsStop_iff_endsWell]
  rintro phase r' ⟨pre, post, r, hp, hr, hphase⟩
  have hrun : p.runPhases (pre ++ [phase]) (p.start api record) = (r', .ok ()) := by
    rw [runPhases_concat p pre phase hr, hphase]
  obtain ⟨rest, hrest, hmem⟩ := eq_validate_cons hp
  have hlate : ∀ q ∈ rest, Step.AddsNoError q.run := by
    intro q hq
    rcases hmem q hq with rfl | rfl | hq
    · exact Phase.addsNoError_lower
    · exact Phase.addsNoError_analyze
    · exact hphases q hq
  rw [hrest] at hrun
  obtain ⟨u, hfirst, hlater⟩ := runPhases_cons_eq_ok hrun
  have hclean := hasErrors_of_runPhase_validate hplugins hfirst
  cases he : r'.context.hasErrors with
  | false => rfl
  | true => rw [← hclean, addsNoError_runPhases hplugins hlate u r' hlater he]

/-- Errors stop a run exactly if no phase of it ends well with an error on record; so do all errors
if hooks and phases behind the standard ones add none, since the lints do not end well then. -/
theorem errors_stop_exactly (p : Pipeline σ) (api : Api) (record : σ) :
    (p.ErrorsStop api record ↔
      ∀ phase r', p.EndsWell api record phase r' → r'.context.hasErrors = false) ∧
    ((∀ plugin ∈ p.plugins, plugin.AddsNoError) →
      (∀ phase ∈ p.phases, Step.AddsNoError phase.run) → p.ErrorsStop api record) :=
  ⟨errorsStop_iff_endsWell, errorsStop_of_addsNoError⟩

/-- A plugin that reports an error when the tables are lowered. -/
def alarm : Plugin Unit where
  name := "alarm"
  before := fun _ r => (r, .ok ())
  after := fun phase =>
    if phase = "lower" then (Action.add ⟨.error, "alarm", "late", none⟩).step
    else fun r => (r, .ok ())

def alarmed : Pipeline Unit := ⟨.standard, [], [alarm]⟩

/-- The analysis follows all the same, and the run ends well with the error on record. -/
theorem late_error_is_passed_over :
    (alarmed.runCollecting ⟨none, [], [], [], [], []⟩ ()).2 = .ok () ∧
    (alarmed.runCollecting ⟨none, [], [], [], [], []⟩ ()).1.context.hasErrors = true ∧
    ¬ alarmed.ErrorsStop ⟨none, [], [], [], [], []⟩ () := by
  have hok : (alarmed.runCollecting ⟨none, [], [], [], [], []⟩ ()).2 = .ok () := rfl
  refine ⟨hok, rfl, ?_⟩
  intro h
  have hstop := h [.validate Unit Lint.standard] (.lower Unit) [.analyze Unit] _ rfl rfl rfl
  obtain ⟨e, he⟩ := hstop.failed
  rw [hok] at he
  cases he

end Pipeline

end BindingTables

import BindingTables.Proofs.Pipeline.Steps

/-! What a run executes: the steps of its phases one after the other, up to the first that fails.
The outcome of the run is then what that step leaves and what it fails with. -/

namespace BindingTables

variable {σ : Type} {r r' u : Run σ} {e : Failure}

namespace Step

variable {step : Step σ} {steps rest : List (Step σ)}

/-- The steps, executed in order from the first run, all end well and leave the second. -/
inductive Leads : List (Step σ) → Run σ → Run σ → Prop
  | done (r : Run σ) : Leads [] r r
  | next {step : Step σ} {rest : List (Step σ)} {r u r' : Run σ} :
      step r = (u, .ok ()) → Leads rest u r' → Leads (step :: rest) r r'

/-- One of the steps fails and leaves `r'`, and those in front of it end well. Whatever stands
behind it has no part in this. -/
def FailsFirst (steps : List (Step σ)) (r r' : Run σ) (e : Failure) : Prop :=
  ∃ before step behind u, steps = before ++ step :: behind ∧ Leads before r u ∧
    step u = (r', .error e)

theorem failsFirst_cons_of_error (h : step r = (r', .error e)) :
    FailsFirst (step :: rest) r r' e :=
  ⟨[], step, rest, r, rfl, .done r, h⟩

theorem failsFirst_cons_of_ok (h : step r = (u, .ok ())) (hrest : FailsFirst rest u r' e) :
    FailsFirst (step :: rest) r r' e := by
  obtain ⟨before, failing, behind, v, rfl, hleads, hfails⟩ := hrest
  exact ⟨step :: before, failing, behind, v, rfl, .next h hleads, hfails⟩

theorem sequence_of_leads (h : Leads steps r r') : sequence steps r = (r', .ok ()) := by
  induction h with
  | done r => rfl
  | next hstep _ ih => rw [sequence_cons_of_ok hstep, ih]

theorem sequence_of_failsFirst (h : FailsFirst steps r r' e) :
    sequence steps r = (r', .error e) := by
  obtain ⟨before, step, behind, u, rfl, hleads, hfails⟩ := h
  rw [sequence_append_of_ok (sequence_of_leads hleads), sequence_cons_of_error hfails]

/-- Steps succeed together exactly if each leads on to the next. -/
theorem sequence_eq_ok_iff : sequence steps r = (r', .ok ()) ↔ Leads steps r r' := by
  refine ⟨fun h => ?_, sequence_of_leads⟩
  induction steps generalizing r with
  | nil =>
    cases h
    exact .done _
  | cons step rest ih =>
    obtain ⟨u, hstep, hrest⟩ := sequence_cons_eq_ok h
    exact .next hstep (ih hrest)

/-- Steps fail together exactly if one of them fails and all before it succeed. -/
theorem sequence_eq_error_iff :
    sequence steps r = (r', .error e) ↔ FailsFirst steps r r' e := by
  refine ⟨fun h => ?_, sequence_of_failsFirst⟩
  induction steps generalizing r with
  | nil => cases h
  | cons step rest ih =>
    rcases hstep : step r with ⟨u, e' | _⟩
    · rw [sequence_cons_of_error hstep] at h
      cases h
      exact failsFirst_cons_of_error hstep
    · rw [sequence_cons_of_ok hstep] at h
      exact failsFirst_cons_of_ok hstep (ih h)

end Step

namespace Pipeline

variable {p : Pipeline σ} {api : Api} {record : σ}

theorem run_eq_ok_iff :
    p.run api record = .ok r ↔ p.runCollecting api record = (r, .ok ()) := by
  rw [run]
  rcases p.runCollecting api record with ⟨u, e | _⟩
  · simp
  · simp

theorem run_eq_error_iff :
    p.run api record = .error e ↔ (p.runCollecting api record).2 = .error e := by
  rw [run]
  rcases p.runCollecting api record with ⟨u, e' | _⟩
  · simp
  · simp

/-- A run executes one list of steps: for each phase in turn the hooks before it, the phase and
the hooks after it. It ends well where they all do, and else ends as the first that fails does. -/
theorem runs_one_list_of_steps (p : Pipeline σ) (api : Api) (record : σ) :
    ∃ phases, phases = .validate σ Lint.standard :: .lower σ :: .analyze σ :: p.phases ∧
      p.phaseInfo = phases.map (fun phase => (phase.name, phase.description)) ∧
      (∀ r, p.runCollecting api record = (r, .ok ()) ↔
        Step.Leads (p.steps phases) (p.start api record) r) ∧
      (∀ r e, p.runCollecting api record = (r, .error e) ↔
        Step.FailsFirst (p.steps phases) (p.start api record) r e) ∧
      (∀ r, p.run api record = .ok r ↔ p.runCollecting api record = (r, .ok ())) ∧
      ∀ e, p.run api record = .error e ↔ (p.runCollecting api record).2 = .error e := by
  refine ⟨p.allPhases, rfl, rfl, ?_, ?_, fun _ => run_eq_ok_iff, fun _ => run_eq_error_iff⟩
  · intro r
    rw [runCollecting_eq_sequence, Step.sequence_eq_ok_iff]
  · intro r e
    rw [runCollecting_eq_sequence, Step.sequence_eq_error_iff]

end Pipeline

end BindingTables

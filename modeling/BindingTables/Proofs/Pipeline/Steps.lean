import BindingTables.Pipeline.Basic

/-! A run is one list of steps, taken in order up to the first that fails. -/

namespace BindingTables

variable {σ : Type} {r r' : Run σ} {e : Failure}

namespace Step

variable {xs ys : List (Step σ)}

/-- How many of the steps are taken, the one that fails included. -/
def taken : List (Step σ) → Run σ → Nat
  | [], _ => 0
  | step :: rest, r =>
    match step r with
    | (r, .ok ()) => taken rest r + 1
    | (_, .error _) => 1

theorem sequence_cons_of_ok {x : Step σ} (h : x r = (r', .ok ())) :
    sequence (x :: xs) r = sequence xs r' := by
  simp only [sequence, h]

theorem sequence_cons_of_error {x : Step σ} (h : x r = (r', .error e)) :
    sequence (x :: xs) r = (r', .error e) := by
  simp only [sequence, h]

theorem sequence_cons_eq_ok {x : Step σ} (h : sequence (x :: xs) r = (r', .ok ())) :
    ∃ u, x r = (u, .ok ()) ∧ sequence xs u = (r', .ok ()) := by
  rcases hx : x r with ⟨u, e | _⟩
  · rw [sequence_cons_of_error hx] at h
    cases h
  · rw [sequence_cons_of_ok hx] at h
    exact ⟨u, rfl, h⟩

/-- The second list is taken up where the first ends, unless that fails. -/
theorem sequence_append (xs ys : List (Step σ)) (r : Run σ) : sequence (xs ++ ys) r =
    match sequence xs r with
    | (r, .ok ()) => sequence ys r
    | (r, .error e) => (r, .error e) := by
  induction xs generalizing r with
  | nil => rfl
  | cons x xs ih =>
    rw [List.cons_append, sequence, sequence]
    rcases x r with ⟨r₁, e | _⟩
    · rfl
    · exact ih r₁

theorem sequence_append_of_ok (h : sequence xs r = (r', .ok ())) :
    sequence (xs ++ ys) r = sequence ys r' := by
  rw [sequence_append, h]

theorem sequence_append_of_error (h : sequence xs r = (r', .error e)) :
    sequence (xs ++ ys) r = (r', .error e) := by
  rw [sequence_append, h]

/-- A list that ends well has ended well in each of its parts. -/
theorem sequence_append_eq_ok (h : sequence (xs ++ ys) r = (r', .ok ())) :
    ∃ u, sequence xs r = (u, .ok ()) ∧ sequence ys u = (r', .ok ()) := by
  rw [sequence_append] at h
  rcases hx : sequence xs r with ⟨u, e | _⟩
  · simp [hx] at h
  · exact ⟨u, rfl, by simpa [hx] using h⟩

theorem taken_pos (h : ys ≠ []) : 0 < taken ys r := by
  cases ys with
  | nil => exact absurd rfl h
  | cons y ys =>
    rw [taken]
    rcases y r with ⟨r₁, e | _⟩ <;> simp

theorem taken_append_of_ok (h : sequence xs r = (r', .ok ())) :
    taken (xs ++ ys) r = xs.length + taken ys r' := by
  induction xs generalizing r with
  | nil =>
    cases h
    simp
  | cons x xs ih =>
    rw [List.cons_append, taken]
    rcases hx : x r with ⟨r₁, e | _⟩
    · rw [sequence_cons_of_error hx] at h
      cases h
    · rw [sequence_cons_of_ok hx] at h
      simp only [ih h, List.length_cons]
      omega

/-- No step behind a list that fails is taken. -/
theorem taken_append_of_error (h : sequence xs r = (r', .error e)) :
    taken (xs ++ ys) r ≤ xs.length := by
  induction xs generalizing r with
  | nil => cases h
  | cons x xs ih =>
    rw [List.cons_append, taken, List.length_cons]
    rcases hx : x r with ⟨r₁, e' | _⟩
    · exact Nat.succ_le_succ (Nat.zero_le _)
    · rw [sequence_cons_of_ok hx] at h
      exact Nat.succ_le_succ (ih h)

end Step

namespace Pipeline

variable {p : Pipeline σ} {phase : Phase σ} {pre post phases : List (Phase σ)}

/-- The hooks before a phase, its run and the hooks after it. -/
def phaseSteps (p : Pipeline σ) (phase : Phase σ) : List (Step σ) :=
  p.plugins.map (·.before phase.name) ++ phase.run :: p.plugins.map (·.after phase.name)

def steps (p : Pipeline σ) (phases : List (Phase σ)) : List (Step σ) :=
  phases.flatMap p.phaseSteps

/-- Where a run starts. -/
def start (p : Pipeline σ) (api : Api) (record : σ) : Run σ := ⟨.start api p.options, record⟩

theorem phaseSteps_ne_nil : p.phaseSteps phase ≠ [] := by
  simp [phaseSteps]

theorem steps_append : p.steps (pre ++ post) = p.steps pre ++ p.steps post :=
  List.flatMap_append

theorem steps_ne_nil (h : phases ≠ []) : p.steps phases ≠ [] := by
  cases phases with
  | nil => exact absurd rfl h
  | cons phase phases =>
    rw [steps, List.flatMap_cons]
    exact List.append_ne_nil_of_left_ne_nil phaseSteps_ne_nil _

theorem callPlugins_eq_sequence (hook : Plugin σ → Step σ) (plugins : List (Plugin σ))
    (r : Run σ) : callPlugins hook plugins r = Step.sequence (plugins.map hook) r := by
  induction plugins generalizing r with
  | nil => rfl
  | cons plugin plugins ih =>
    rw [callPlugins, List.map_cons, Step.sequence]
    rcases hook plugin r with ⟨r₁, e | _⟩
    · rfl
    · exact ih r₁

theorem runPhase_eq_sequence (p : Pipeline σ) (phase : Phase σ) (r : Run σ) :
    p.runPhase phase r = Step.sequence (p.phaseSteps phase) r := by
  rw [runPhase, phaseSteps, Step.sequence_append, callPlugins_eq_sequence]
  rcases hb : Step.sequence (p.plugins.map (·.before phase.name)) r with ⟨r₁, e | _⟩
  · simp only [hb]
  · simp only [hb, Step.sequence, callPlugins_eq_sequence]
    rcases phase.run r₁ with ⟨r₂, e | _⟩ <;> rfl

theorem runPhases_eq_sequence (p : Pipeline σ) (phases : List (Phase σ)) (r : Run σ) :
    p.runPhases phases r = Step.sequence (p.steps phases) r := by
  induction phases generalizing r with
  | nil => rfl
  | cons phase phases ih =>
    rw [runPhases, runPhase_eq_sequence, steps, List.flatMap_cons, Step.sequence_append]
    rcases Step.sequence (p.phaseSteps phase) r with ⟨r₁, e | _⟩
    · rfl
    · exact ih r₁

/-- Phases that end well have the first of them end well. -/
theorem runPhases_cons_eq_ok (h : p.runPhases (phase :: phases) r = (r', .ok ())) :
    ∃ u, p.runPhase phase r = (u, .ok ()) ∧ p.runPhases phases u = (r', .ok ()) := by
  rw [runPhases_eq_sequence, steps, List.flatMap_cons] at h
  obtain ⟨u, hfirst, hrest⟩ := Step.sequence_append_eq_ok h
  refine ⟨u, ?_, ?_⟩
  · rw [runPhase_eq_sequence, hfirst]
  · rw [runPhases_eq_sequence, steps, hrest]

theorem runCollecting_eq_sequence (p : Pipeline σ) (api : Api) (record : σ) :
    p.runCollecting api record = Step.sequence (p.steps p.allPhases) (p.start api record) :=
  runPhases_eq_sequence p p.allPhases (p.start api record)

end Pipeline

end BindingTables

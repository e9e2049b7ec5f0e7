import BindingTables.Proofs.Pipeline.Plain

/-! Plugins that only look on: they may keep a record, and the run comes to what it would have come
to without them. -/

namespace BindingTables

variable {σ : Type}

/-- The step ends well and leaves the context as it is. -/
def Step.Observes (step : Step σ) : Prop :=
  ∀ r, ∃ record, step r = (⟨r.context, record⟩, .ok ())

def Plugin.Observes (plugin : Plugin σ) : Prop :=
  ∀ phase, Step.Observes (plugin.before phase) ∧ Step.Observes (plugin.after phase)

/-- The phase neither reads the record nor changes it. -/
def Phase.ActsOnContext (phase : Phase σ) : Prop := ∃ f, phase.run = .ofContext f

theorem Phase.actsOnContext_of_mem_standard {phase : Phase σ} (h : phase ∈ Phase.standard σ) :
    phase.ActsOnContext := by
  rw [Phase.standard] at h
  simp only [List.mem_cons, List.not_mem_nil, or_false] at h
  rcases h with rfl | rfl | rfl
  · exact ⟨_, rfl⟩
  · exact ⟨fun c => (c.lower, .ok ()), rfl⟩
  · exact ⟨_, rfl⟩

namespace Pipeline

variable {p : Pipeline σ} {o : Options} {r r' : Run σ} {phase : Phase σ} {phases : List (Phase σ)}

theorem observes_callPlugins {hook : Plugin σ → Step σ} {plugins : List (Plugin σ)}
    (h : ∀ plugin ∈ plugins, Step.Observes (hook plugin)) :
    Step.Observes (callPlugins hook plugins) := by
  induction plugins with
  | nil =>
    intro r
    exact ⟨r.record, rfl⟩
  | cons plugin plugins ih =>
    intro r
    obtain ⟨record, hfirst⟩ := h plugin List.mem_cons_self r
    have hrest := ih (fun q hq => h q (List.mem_cons_of_mem plugin hq)) ⟨r.context, record⟩
    simpa only [callPlugins, hfirst] using hrest

/-- With observers around it, a phase comes to what it comes to in a plain run. -/
theorem runPhase_of_observers (hp : ∀ plugin ∈ p.plugins, plugin.Observes)
    (hphase : phase.ActsOnContext) (hr : r.context = r'.context) :
    ∃ record, p.runPhase phase r = (⟨((plain o).runPhase phase r').1.context, record⟩,
      ((plain o).runPhase phase r').2) := by
  obtain ⟨f, hf⟩ := hphase
  obtain ⟨before, hbefore⟩ :=
    observes_callPlugins (fun plugin hmem => (hp plugin hmem phase.name).1) r
  have hrun : phase.run ⟨r.context, before⟩ = (⟨(f r.context).1, before⟩, (f r.context).2) := by
    rw [hf, Step.ofContext]
  have hplain : (plain o).runPhase phase r'
      = (⟨(f r.context).1, r'.record⟩, (f r.context).2) := by
    rw [runPhase_plain, hf, Step.ofContext, hr]
  rw [hplain, runPhase]
  simp only [hbefore, hrun]
  rcases hres : (f r.context).2 with e | _
  · exact ⟨before, rfl⟩
  · exact observes_callPlugins (fun plugin hmem => (hp plugin hmem phase.name).2) _

theorem runPhases_of_observers (hp : ∀ plugin ∈ p.plugins, plugin.Observes)
    (hphases : ∀ phase ∈ phases, phase.ActsOnContext) (hr : r.context = r'.context) :
    ∃ record, p.runPhases phases r = (⟨((plain o).runPhases phases r').1.context, record⟩,
      ((plain o).runPhases phases r').2) := by
  -- The records of the two runs part ways; their contexts stay the same from phase to phase.
  induction phases generalizing r r' with
  | nil => exact ⟨r.record, by rw [runPhases, runPhases, ← hr]⟩
  | cons phase rest ih =>
    obtain ⟨record, hfirst⟩ :=
      runPhase_of_observers (o := o) hp (hphases phase List.mem_cons_self) hr
    rw [runPhases, runPhases, hfirst]
    rcases (plain o).runPhase phase r' with ⟨s, e | _⟩
    · exact ⟨record, rfl⟩
    · exact ih (fun q hq => hphases q (List.mem_cons_of_mem phase hq)) rfl

/-- Whatever the observers record, the context and the outcome are those of a plain run. -/
theorem runCollecting_of_observers (api : Api) (record : σ) (hphases : p.phases = [])
    (hp : ∀ plugin ∈ p.plugins, plugin.Observes) : ∃ record', p.runCollecting api record =
      (⟨((plain p.options).runCollecting api record).1.context, record'⟩,
        ((plain p.options).runCollecting api record).2) := by
  have hall : p.allPhases = Phase.standard σ := by rw [allPhases, hphases, List.append_nil]
  have hplain : (plain p.options : Pipeline σ).allPhases = Phase.standard σ := List.append_nil _
  rw [runCollecting, runCollecting, hall, hplain]
  exact runPhases_of_observers hp (fun _ => Phase.actsOnContext_of_mem_standard) rfl

end Pipeline

end BindingTables

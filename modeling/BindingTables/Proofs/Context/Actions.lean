import BindingTables.Pipeline.Action
import BindingTables.Proofs.Statistics.Counting

/-! What a sequence of actions leaves in a context, told from the actions alone. -/

namespace BindingTables

/-- The context that the actions leave, those that are done. -/
def Context.after (c : Context) : List Action → Context
  | [] => c
  | a :: rest =>
    let m : Moment := ⟨c, a⟩
    if m.isFatal then m.after else m.after.after rest

/-- None of the actions is fatal, so all are done. -/
def Context.Completes (c : Context) (actions : List Action) : Prop :=
  ∀ m ∈ c.history actions, m.isFatal = false

/-- What is known of a context from what was done to it. -/
structure Trail where
  options : Options
  /-- The options under which the tables on hand were lowered. -/
  lowered : Option Options
deriving DecidableEq

variable {api : Api} {o : Options} {c : Context} {t : Trail}

namespace Trail

def start (o : Options) : Trail := ⟨o, none⟩

def step (t : Trail) : Action → Trail
  | .lower => { t with lowered := some t.options }
  | .takeBindings => { t with lowered := none }
  | .setStrict strict => { t with options := { t.options with strictAccessors := strict } }
  | .setSkipClasses names => { t with options := { t.options with skipClasses := names } }
  | .validate _ | .analyze | .add _ | .clear | .takeStatistics | .fail _ => t

def after (t : Trail) : List Action → Trail
  | [] => t
  | a :: rest => (t.step a).after rest

/-- The trail tells the options of the context and its tables. -/
structure LeadsTo (t : Trail) (api : Api) (c : Context) : Prop where
  api_eq : c.api = api
  options_eq : c.options = t.options
  bindings_eq : c.bindings = t.lowered.map api.lower

theorem leadsTo_start (api : Api) (o : Options) : (start o).LeadsTo api (.start api o) :=
  ⟨rfl, rfl, rfl⟩

end Trail

namespace Context

/-- Whether the lints pass or fail, what they report is on record. -/
theorem validate_fst (lints : List Lint) (c : Context) :
    (c.validate lints).1 = c.add (lints.flatMap fun lint => lint.check c.api c.options) := by
  rw [validate]
  split <;> rfl

/-- An analysis sets nothing but the statistics, and these only if the tables have them. -/
theorem analyze_fst (c : Context) : c.analyze.1 =
    { c with statistics :=
        (c.bindings.bind (Statistics.compute? c.api c.options)).or c.statistics } := by
  obtain ⟨api, o, bindings, statistics, ds⟩ := c
  cases bindings with
  | none => rfl
  | some b => cases hs : Statistics.compute? api o b <;> simp [analyze, hs]

/-- An analysis is in want of tables, or of classes that declare what the tables hold. -/
theorem analyze_eq_error_iff {e : Failure} : c.analyze.2 = .error e ↔
    c.bindings = none ∧ e = .notLowered ∨
      (∃ b, c.bindings = some b ∧ ¬ Statistics.InRange c.api c.options b) ∧
        e = .countBelowZero := by
  simp only [← Statistics.exists_compute?_iff]
  obtain ⟨api, o, bindings, statistics, ds⟩ := c
  cases bindings with
  | none => simp [analyze, eq_comm]
  | some b => cases hs : Statistics.compute? api o b <;> simp [analyze, hs, eq_comm]

theorem takeBindings_fst (c : Context) : c.takeBindings.1 = { c with bindings := none } := by
  rcases c with ⟨_, _, _ | _, _, _⟩ <;> rfl

theorem takeStatistics_fst (c : Context) : c.takeStatistics.1 = { c with statistics := none } := by
  rcases c with ⟨_, _, _, _ | _, _⟩ <;> rfl

theorem after_cons {a : Action} {rest : List Action} (h : (⟨c, a⟩ : Moment).isFatal = false) :
    c.after (a :: rest) = (a.apply c).1.after rest := by
  rw [after, if_neg (by simp [h])]
  rfl

theorem completes_cons {a : Action} {rest : List Action} : c.Completes (a :: rest) ↔
    (⟨c, a⟩ : Moment).isFatal = false ∧ (a.apply c).1.Completes rest := by
  rw [Completes, history, List.forall_mem_cons]
  apply and_congr_right
  intro hfirst
  rw [if_neg (by simp [hfirst])]
  rfl

/-- Of actions that are all done, those in front lead to where the others start. -/
theorem completes_append {before rest : List Action} : c.Completes (before ++ rest) ↔
    c.Completes before ∧ (c.after before).Completes rest := by
  induction before generalizing c with
  | nil => simp [Completes, history, after]
  | cons a before ih =>
    rw [List.cons_append, completes_cons, completes_cons, ih, and_assoc]
    apply and_congr_right
    intro hfirst
    rw [after_cons hfirst]

end Context

namespace Trail

/-- Each action moves the trail along with the context. -/
theorem leadsTo_apply (h : t.LeadsTo api c) (a : Action) :
    (t.step a).LeadsTo api (a.apply c).1 := by
  obtain ⟨hapi, hoptions, hbindings⟩ := h
  cases a with
  | validate lints =>
    rw [Action.apply, Context.validate_fst]
    exact ⟨hapi, hoptions, hbindings⟩
  | lower =>
    refine ⟨hapi, hoptions, ?_⟩
    rw [Action.apply, Context.lower, hapi, hoptions]
    rfl
  | analyze =>
    rw [Action.apply, Context.analyze_fst]
    exact ⟨hapi, hoptions, hbindings⟩
  | add d => exact ⟨hapi, hoptions, hbindings⟩
  | clear => exact ⟨hapi, hoptions, hbindings⟩
  | setStrict strict => exact ⟨hapi, by rw [Action.apply, hoptions]; rfl, hbindings⟩
  | setSkipClasses names => exact ⟨hapi, by rw [Action.apply, hoptions]; rfl, hbindings⟩
  | takeBindings =>
    rw [Action.apply, Context.takeBindings_fst]
    exact ⟨hapi, hoptions, rfl⟩
  | takeStatistics =>
    rw [Action.apply, Context.takeStatistics_fst]
    exact ⟨hapi, hoptions, hbindings⟩
  | fail message => exact ⟨hapi, hoptions, hbindings⟩

theorem leadsTo_after {actions : List Action} (h : t.LeadsTo api c)
    (hdone : c.Completes actions) : (t.after actions).LeadsTo api (c.after actions) := by
  induction actions generalizing t c with
  | nil => exact h
  | cons a rest ih =>
    obtain ⟨hfirst, hrest⟩ := Context.completes_cons.mp hdone
    rw [Context.after_cons hfirst]
    exact ih (leadsTo_apply h a) hrest

end Trail

end BindingTables

import Mathlib.Data.List.DropRight
import BindingTables.Proofs.Context.Actions

/-! A context tells what was done to it: its record, its tables and its statistics are those that
the actions so far have left there. Each action touches a part of its own, and one that fails
touches nothing but the record. -/

namespace BindingTables

namespace Moment

def succeeds (m : Moment) : Bool := m.outcome matches .ok _

/-- What the action puts on record. -/
def remarks (m : Moment) : List Diagnostic :=
  match m.action with
  | .validate lints => lints.flatMap fun lint => lint.check m.before.api m.before.options
  | .add d => [d]
  | _ => []

def clears (m : Moment) : Bool := m.action matches .clear

def lowers (m : Moment) : Bool := m.action matches .lower

def analyzes (m : Moment) : Bool := (m.action matches .analyze) && m.succeeds

def takesBindings (m : Moment) : Bool := (m.action matches .takeBindings) && m.succeeds

def takesStatistics (m : Moment) : Bool := (m.action matches .takeStatistics) && m.succeeds

/-- The skip list that the action puts in force. -/
def skipList? (m : Moment) : Option (List String) :=
  match m.action with
  | .setSkipClasses names => some names
  | _ => none

def strictness? (m : Moment) : Option Bool :=
  match m.action with
  | .setStrict strict => some strict
  | _ => none

/-- The moments behind the last that `stop` holds of. -/
def since (stop : Moment → Bool) (h : List Moment) : List Moment := h.rtakeWhile (!stop ·)

/-- The last moment that `p` holds of, unless `stop` has held of one since. -/
def last? (stop p : Moment → Bool) (h : List Moment) : Option Moment :=
  ((since stop h).filter p).getLast?

/-- The last that was set, or else what there was at the start. -/
def latest {α : Type} (set? : Moment → Option α) (initial : α) (h : List Moment) : α :=
  (h.filterMap set?).getLast?.getD initial

variable {stop p : Moment → Bool} {h : List Moment} {m : Moment}

/-- A moment that stops forgets those before it, itself included. -/
theorem since_concat : since stop (h ++ [m]) = if stop m then [] else since stop h ++ [m] := by
  rw [since, List.rtakeWhile_concat, since]
  cases stop m <;> rfl

theorem last?_concat : last? stop p (h ++ [m]) =
    if stop m then none else if p m then some m else last? stop p h := by
  rw [last?, since_concat]
  cases hs : stop m with
  | true => rfl
  | false =>
    cases hp : p m with
    | true => simp [hp]
    | false => simp [hp, last?]

theorem latest_concat {α : Type} {set? : Moment → Option α} {initial : α} :
    latest set? initial (h ++ [m]) = (set? m).getD (latest set? initial h) := by
  rw [latest, List.filterMap_append]
  cases hm : set? m with
  | none => simp [hm, latest]
  | some x => simp [hm]

end Moment

/-- The context holds what the moments before it have left there, and nothing else. -/
structure Context.Recounts (c : Context) (api : Api) (o : Options) (h : List Moment) : Prop where
  api_eq : c.api = api
  skipClasses : c.options.skipClasses = Moment.latest Moment.skipList? o.skipClasses h
  strictAccessors : c.options.strictAccessors
    = Moment.latest Moment.strictness? o.strictAccessors h
  diagnostics : c.diagnostics = (Moment.since Moment.clears h).flatMap Moment.remarks
  bindings : c.bindings = (Moment.last? Moment.takesBindings Moment.lowers h).map
    fun m => api.lower m.before.options
  statistics : c.statistics = (Moment.last? Moment.takesStatistics Moment.analyzes h).bind
    fun m => m.before.bindings.bind (Statistics.compute? api m.before.options)

variable {api : Api} {o : Options} {c : Context} {h : List Moment} {m : Moment}

namespace Context

theorem add_nil (c : Context) : c.add [] = c := by
  rw [add, List.append_nil]

/-- The lints pass unless an error is on record behind them, be it theirs or an older one. -/
theorem validate_eq_error_iff {lints : List Lint} {ds : List Diagnostic} {e : Failure}
    (hds : (c.validate lints).1.diagnostics = ds) : (c.validate lints).2 = .error e ↔
      (∃ d ∈ ds, d.severity = .error) ∧ e = .invalid (ds.countP (·.severity = .error)) := by
  have hsnd : (c.validate lints).2 = if ds.any (·.isError) then
      .error (.invalid (ds.countP (·.isError))) else .ok () := by
    rw [validate_fst] at hds
    rw [validate, ← hds, List.countP_eq_length_filter]
    exact apply_ite Prod.snd _ _ _
  have hany : ds.any (·.isError) = true ↔ ∃ d ∈ ds, d.severity = .error := by
    simp [Diagnostic.isError]
  rw [hsnd, ← hany]
  split
  · rename_i herror
    rw [and_iff_right herror, Except.error.injEq, eq_comm]
    rfl
  · rename_i hnone
    simp [hnone]

theorem analyze_fst_of_error {e : Failure} (he : c.analyze.2 = .error e) : c.analyze.1 = c := by
  obtain ⟨api, o, bindings, statistics, ds⟩ := c
  cases bindings with
  | none => rfl
  | some b => cases hs : Statistics.compute? api o b <;> simp_all [analyze]

theorem takeBindings_eq_error_iff {e : Failure} :
    c.takeBindings.2 = .error e ↔ c.bindings = none ∧ e = .bindingsTaken := by
  rcases c with ⟨_, _, _ | _, _, _⟩ <;> simp [takeBindings, eq_comm]

theorem takeBindings_eq_ok_iff {b : Bindings} :
    c.takeBindings.2 = .ok b ↔ c.bindings = some b := by
  rcases c with ⟨_, _, _ | _, _, _⟩ <;> simp [takeBindings]

theorem takeStatistics_eq_error_iff {e : Failure} :
    c.takeStatistics.2 = .error e ↔ c.statistics = none ∧ e = .statisticsTaken := by
  rcases c with ⟨_, _, _, _ | _, _⟩ <;> simp [takeStatistics, eq_comm]

theorem takeStatistics_eq_ok_iff {s : Statistics} :
    c.takeStatistics.2 = .ok s ↔ c.statistics = some s := by
  rcases c with ⟨_, _, _, _ | _, _⟩ <;> simp [takeStatistics]

end Context

namespace Moment

theorem analyzes_eq (c : Context) : (⟨c, .analyze⟩ : Moment).analyzes =
    (c.bindings.bind (Statistics.compute? c.api c.options)).isSome := by
  obtain ⟨api, o, bindings, statistics, ds⟩ := c
  cases bindings with
  | none => rfl
  | some b =>
    cases hs : Statistics.compute? api o b <;>
      simp [analyzes, succeeds, outcome, Action.apply, Context.analyze, hs, Except.map]

/-- All that an action can do: what it does not set, take, clear or add to stays as it was. -/
theorem after_eq (m : Moment) : m.after =
    { api := m.before.api
      options := ⟨m.skipList?.getD m.before.options.skipClasses,
        m.strictness?.getD m.before.options.strictAccessors⟩
      bindings :=
        if m.takesBindings then none
        else if m.lowers then some (m.before.api.lower m.before.options) else m.before.bindings
      statistics :=
        if m.takesStatistics then none
        else if m.analyzes then
          m.before.bindings.bind (Statistics.compute? m.before.api m.before.options)
        else m.before.statistics
      diagnostics := if m.clears then [] else m.before.diagnostics ++ m.remarks } := by
  obtain ⟨⟨api, o, bindings, statistics, ds⟩, a⟩ := m
  cases a with
  | validate lints =>
    rw [after, Action.apply, Context.validate_fst]
    rfl
  | add d => rfl
  | clear => rfl
  -- What puts nothing on record leaves the record with nothing behind it.
  | lower => exact (Context.add_nil _).symm
  | setStrict strict => exact (Context.add_nil _).symm
  | setSkipClasses names => exact (Context.add_nil _).symm
  | fail message => exact (Context.add_nil _).symm
  | analyze =>
    have hset (new old : Option Statistics) :
        new.or old = if new.isSome then new else old := by cases new <;> rfl
    rw [after, Action.apply, Context.analyze_fst, analyzes_eq, hset]
    exact (Context.add_nil _).symm
  | takeBindings => cases bindings <;> exact (Context.add_nil _).symm
  | takeStatistics => cases statistics <;> exact (Context.add_nil _).symm

/-- An action leaves what the moments before it and its own account for. -/
theorem recounts_after (hm : m.before.Recounts api o h) :
    m.after.Recounts api o (h ++ [m]) := by
  rw [m.after_eq]
  refine ⟨hm.api_eq, ?_, ?_, ?_, ?_, ?_⟩
  · rw [latest_concat, ← hm.skipClasses]
  · rw [latest_concat, ← hm.strictAccessors]
  · rw [since_concat, hm.diagnostics]
    cases m.clears with
    | true => rfl
    | false => simp
  · rw [last?_concat, hm.bindings, hm.api_eq]
    cases m.takesBindings with
    | true => rfl
    | false => cases m.lowers <;> rfl
  · rw [last?_concat, hm.statistics, hm.api_eq]
    cases m.takesStatistics with
    | true => rfl
    | false => cases m.analyzes <;> rfl

/-- When an action fails, what it then leaves, and what it hands out else. -/
structure Answers (m : Moment) : Prop where
  validate : ∀ lints, m.action = .validate lints → ∀ e, m.outcome = .error e ↔
    (∃ d ∈ m.before.diagnostics ++ m.remarks, d.severity = .error) ∧
      e = .invalid ((m.before.diagnostics ++ m.remarks).countP (·.severity = .error))
  analyze : m.action = .analyze → ∀ e, m.outcome = .error e ↔
    m.before.bindings = none ∧ e = .notLowered ∨
      (∃ b, m.before.bindings = some b ∧
        ¬ Statistics.InRange m.before.api m.before.options b) ∧ e = .countBelowZero
  takeBindings : m.action = .takeBindings →
    (∀ e, m.outcome = .error e ↔ m.before.bindings = none ∧ e = .bindingsTaken) ∧
      ∀ b, m.outcome = .ok (.bindings b) ↔ m.before.bindings = some b
  takeStatistics : m.action = .takeStatistics →
    (∀ e, m.outcome = .error e ↔ m.before.statistics = none ∧ e = .statisticsTaken) ∧
      ∀ s, m.outcome = .ok (.statistics s) ↔ m.before.statistics = some s
  others : (m.action matches .lower | .add _ | .clear | .setStrict _ | .setSkipClasses _) →
    m.outcome = .ok .nothing
  /-- Only a validation that fails leaves a trace, and that on record alone. -/
  unchanged : ∀ e, m.outcome = .error e → m.after = m.before.add m.remarks ∧
    (m.remarks = [] ∨ ∃ lints, m.action = .validate lints)

theorem map_eq_error_iff {α β : Type} {f : α → β} {x : Except Failure α} {e : Failure} :
    x.map f = .error e ↔ x = .error e := by
  cases x <;> simp [Except.map]

/-- An action that fails leaves nothing but its remarks. -/
theorem after_eq_of_error {e : Failure} (he : m.outcome = .error e) :
    m.after = m.before.add m.remarks := by
  obtain ⟨⟨api, o, bindings, statistics, ds⟩, a⟩ := m
  cases a with
  | validate lints => exact Context.validate_fst lints _
  | analyze =>
    rw [after, Action.apply, Context.analyze_fst_of_error (map_eq_error_iff.mp he)]
    exact (Context.add_nil _).symm
  | takeBindings =>
    cases bindings with
    | none => exact (Context.add_nil _).symm
    | some b => cases he
  | takeStatistics =>
    cases statistics with
    | none => exact (Context.add_nil _).symm
    | some s => cases he
  | fail message => exact (Context.add_nil _).symm
  | lower | add | clear | setStrict | setSkipClasses => cases he

theorem answers (m : Moment) : m.Answers := by
  obtain ⟨c, a⟩ := m
  refine ⟨?_, ?_, ?_, ?_, ?_, ?_⟩
  · rintro lints ⟨⟩ e
    exact map_eq_error_iff.trans (Context.validate_eq_error_iff (by rw [Context.validate_fst]; rfl))
  · rintro ⟨⟩ e
    exact map_eq_error_iff.trans Context.analyze_eq_error_iff
  · rintro ⟨⟩
    refine ⟨fun e => map_eq_error_iff.trans Context.takeBindings_eq_error_iff, fun b => ?_⟩
    rw [← Context.takeBindings_eq_ok_iff, outcome, Action.apply]
    cases c.takeBindings.2 <;> simp [Except.map]
  · rintro ⟨⟩
    refine ⟨fun e => map_eq_error_iff.trans Context.takeStatistics_eq_error_iff, fun s => ?_⟩
    rw [← Context.takeStatistics_eq_ok_iff, outcome, Action.apply]
    cases c.takeStatistics.2 <;> simp [Except.map]
  · intro h
    cases a with
    | lower | add | clear | setStrict | setSkipClasses => rfl
    | validate | analyze | takeBindings | takeStatistics | fail => cases h
  · intro e he
    refine ⟨after_eq_of_error he, ?_⟩
    cases a with
    | validate lints => exact Or.inr ⟨lints, rfl⟩
    | add d => cases he
    | _ => exact Or.inl rfl

end Moment

namespace Context

theorem recounts_start (api : Api) (o : Options) : (start api o).Recounts api o [] :=
  ⟨rfl, rfl, rfl, rfl, rfl, rfl⟩

theorem recounts_after (hc : c.Recounts api o h) (actions : List Action) :
    (c.after actions).Recounts api o (h ++ c.history actions) := by
  induction actions generalizing c h with
  | nil => simpa [after, history] using hc
  | cons a rest ih =>
    have hfirst := Moment.recounts_after (m := ⟨c, a⟩) hc
    rw [after, history]
    by_cases hfatal : (⟨c, a⟩ : Moment).isFatal
    · rw [if_pos hfatal, if_pos hfatal]
      exact hfirst
    · rw [if_neg hfatal, if_neg hfatal]
      have hrest := ih hfirst
      rwa [List.append_assoc, List.singleton_append] at hrest

end Context

/-- Whatever was done to a context, it tells no more and no less than that; and whatever is done
to it next fails only for an error on record or for want of what it takes. -/
theorem context_recounts_history (api : Api) (o : Options) (actions : List Action) :
    ((Context.start api o).after actions).Recounts api o
        ((Context.start api o).history actions) ∧
      ∀ a, (⟨(Context.start api o).after actions, a⟩ : Moment).Answers :=
  ⟨Context.recounts_after (Context.recounts_start api o) actions, fun _ => Moment.answers _⟩

end BindingTables

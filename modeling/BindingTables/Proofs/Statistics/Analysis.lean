import BindingTables.Proofs.Context.Actions

/-! When the analysis of a context ends the program. The tables are those of the options at the
last lowering, and they are counted against the classes that the options in force bind. -/

namespace BindingTables

variable {api : Api} {o o' : Options} {c : Context} {t : Trail}

/-- All classes that the tables of `o'` hold are bound by `o` too. -/
def Options.Covers (o o' : Options) (api : Api) : Prop :=
  ∀ c ∈ o'.boundClasses api, o.skips c.2.name = false

namespace Options

theorem boundClasses_sublist (h : o.Covers o' api) :
    (o'.boundClasses api).Sublist (o.boundClasses api) := by
  have hboth : o'.boundClasses api = (o.boundClasses api).filter fun c => !o'.skips c.2.name := by
    rw [boundClasses, boundClasses, List.filter_filter]
    apply List.filter_congr
    intro c hc
    cases hskip : o'.skips c.2.name with
    | true => rfl
    | false =>
      have hbound : c ∈ o'.boundClasses api := List.mem_filter.mpr ⟨hc, by simp [hskip]⟩
      simp [h c hbound]
  rw [hboth]
  exact List.filter_sublist

theorem declared_le_of_covers (h : o.Covers o' api) (count : Class → Nat) :
    o'.declared api count ≤ o.declared api count := by
  simp only [declared, total_eq_sum]
  exact (((boundClasses_sublist h).map _).map count).sum_le_sum fun _ _ => Nat.zero_le _

end Options

namespace Statistics

theorem inRange_of_covers (h : o.Covers o' api) : InRange api o (api.lower o') := by
  have hlower := inRange_lower api o'
  exact ⟨hlower.classes, hlower.methods.trans (Options.declared_le_of_covers h _),
    hlower.operators.trans (Options.declared_le_of_covers h _)⟩

/-- An API whose one class has one method. -/
def probe (name : String) : Api where
  header := none
  globalEnums := []
  utilityFunctions := []
  builtinClasses := []
  classes := [⟨name, none, false, true, [⟨"call", false, false, false, false, [], none, none⟩],
    [], [], []⟩]
  singletons := []

/-- The method stands in the tables and is declared by no class that is bound. -/
theorem not_inRange_probe {name : String} (hnow : o.skips name = true)
    (hthen : o'.skips name = false) : ¬ InRange (probe name) o ((probe name).lower o') := by
  intro h
  have hmethods := h.methods
  rw [Api.total_methods_lower] at hmethods
  have hheld : o'.declared (probe name) (·.bindableMethods.length) = 1 := by
    simp [Options.declared, Options.boundClasses, Api.sectionedClasses, probe, hthen, total,
      Class.bindableMethods, Method.isSkipped, handBound]
  have hdeclared : o.declared (probe name) (·.methods.length) = 0 := by
    simp [Options.declared, Options.boundClasses, Api.sectionedClasses, probe, hnow, total]
  omega

end Statistics

namespace Context

/-- If there are tables to analyze, no difference taken of them is less than zero. -/
def AnalysisInRange (c : Context) : Prop :=
  ∀ b, c.bindings = some b → Statistics.InRange c.api c.options b

/-- Whenever an analysis is reached among the actions, it is in range. -/
def StaysInRange (c : Context) (actions : List Action) : Prop :=
  ∀ before rest, actions = before ++ .analyze :: rest → c.Completes before →
    (c.after before).AnalysisInRange

theorem analyze_eq_countBelowZero_iff :
    c.analyze.2 = .error .countBelowZero ↔ ¬ c.AnalysisInRange := by
  simp [analyze_eq_error_iff, AnalysisInRange]

/-- Nothing is fatal but an analysis out of range. -/
theorem isFatal_eq_false_iff {a : Action} :
    (⟨c, a⟩ : Moment).isFatal = false ↔ (a = .analyze → c.AnalysisInRange) := by
  cases a with
  | analyze =>
    have hfatal : (⟨c, .analyze⟩ : Moment).isFatal = true ↔
        c.analyze.2 = .error .countBelowZero := by
      rw [Moment.isFatal, Moment.outcome, Action.apply]
      rcases c.analyze.2 with e | _
      · cases e <;> simp [Except.map, Failure.isFatal]
      · simp [Except.map]
    rw [← Bool.not_eq_true, hfatal, analyze_eq_countBelowZero_iff]
    simp
  | validate lints =>
    have hend : (c.validate lints).2 = .ok () ∨
        ∃ n, (c.validate lints).2 = .error (.invalid n) := by
      rw [validate]
      split
      · exact Or.inr ⟨_, rfl⟩
      · exact Or.inl rfl
    obtain hok | ⟨n, herr⟩ := hend
    · simp [Moment.isFatal, Moment.outcome, Action.apply, hok, Except.map]
    · simp [Moment.isFatal, Moment.outcome, Action.apply, herr, Except.map, Failure.isFatal]
  | takeBindings => rcases c with ⟨_, _, _ | _, _, _⟩ <;> simp <;> rfl
  | takeStatistics => rcases c with ⟨_, _, _, _ | _, _⟩ <;> simp <;> rfl
  | lower | add _ | clear | setStrict _ | setSkipClasses _ | fail _ => simp; rfl

/-- All actions are done exactly if no analysis is reached that is out of range. -/
theorem completes_iff_staysInRange {actions : List Action} :
    c.Completes actions ↔ c.StaysInRange actions := by
  constructor
  · rintro h before rest rfl -
    have hrest := (completes_append.mp h).2
    exact isFatal_eq_false_iff.mp (completes_cons.mp hrest).1 rfl
  · intro h
    induction actions generalizing c with
    | nil => simp [Completes, history]
    | cons a rest ih =>
      have hfirst : (⟨c, a⟩ : Moment).isFatal = false := by
        rw [isFatal_eq_false_iff]
        rintro rfl
        exact h [] rest rfl (by simp [Completes, history])
      refine completes_cons.mpr ⟨hfirst, ih ?_⟩
      rintro before rest' rfl hbefore
      rw [← after_cons hfirst]
      exact h (a :: before) rest' rfl (completes_cons.mpr ⟨hfirst, hbefore⟩)

end Context

namespace Trail

/-- All classes that tables on hand hold are still bound. -/
def Covers (t : Trail) (api : Api) : Prop := ∀ o', t.lowered = some o' → t.options.Covers o' api

/-- Nothing is skipped that was not skipped when tables on hand were lowered. -/
def SkipsNoMore (t : Trail) : Prop :=
  ∀ o', t.lowered = some o' → ∀ name, t.options.skips name = true → o'.skips name = true

theorem covers_of_skipsNoMore (h : t.SkipsNoMore) (api : Api) : t.Covers api := by
  intro o' ho c hc
  have hbound : o'.skips c.2.name = false := by simpa using (List.mem_filter.mp hc).2
  cases hskip : t.options.skips c.2.name with
  | false => rfl
  | true => rw [← hbound, h o' ho _ hskip]

namespace LeadsTo

theorem bindings_eq_some (h : t.LeadsTo api c) {b : Bindings} (hb : c.bindings = some b) :
    ∃ o', t.lowered = some o' ∧ api.lower o' = b := by
  rw [h.bindings_eq] at hb
  exact Option.map_eq_some_iff.mp hb

theorem analysisInRange (h : t.LeadsTo api c) (hcovers : t.Covers api) : c.AnalysisInRange := by
  intro b hb
  obtain ⟨o', ho, rfl⟩ := h.bindings_eq_some hb
  rw [h.api_eq, h.options_eq]
  exact Statistics.inRange_of_covers (hcovers o' ho)

end LeadsTo

/-- A skip list that has grown since the lowering is one class too long for some API. -/
theorem skipsNoMore_of_analysisInRange {f : Api → Context} (h : ∀ api, t.LeadsTo api (f api))
    (hrange : ∀ api, (f api).AnalysisInRange) : t.SkipsNoMore := by
  intro o' ho name hnow
  cases hthen : o'.skips name with
  | true => rfl
  | false =>
    -- The tables of a class of that name hold what is bound no more.
    have hprobe := h (Statistics.probe name)
    have htables : (f (Statistics.probe name)).bindings
        = some ((Statistics.probe name).lower o') := by
      rw [hprobe.bindings_eq, ho]
      rfl
    have hin := hrange (Statistics.probe name) _ htables
    rw [hprobe.api_eq, hprobe.options_eq] at hin
    exact absurd hin (Statistics.not_inRange_probe hnow hthen)

end Trail

/-- Whatever was done to a context, its analysis counts no more classes than are declared, and is in
range if all classes in the tables are still bound; the actions come to their end exactly if every
analysis that is reached is in range. For no API one is out of range exactly if at none of them the
skip list has a name that it had not when the tables were lowered. -/
theorem analysis_in_range_exactly (o : Options) (actions : List Action) :
    (∀ api b, (Context.start api o).Completes actions →
      ((Context.start api o).after actions).bindings = some b →
      b.builtinClasses.length + b.classes.length
        ≤ api.builtinClasses.length + api.classes.length) ∧
    (∀ api, (Context.start api o).Completes actions → ((Trail.start o).after actions).Covers api →
      ((Context.start api o).after actions).AnalysisInRange) ∧
    (∀ api, (Context.start api o).Completes actions ↔
      (Context.start api o).StaysInRange actions) ∧
    ((∀ api, (Context.start api o).StaysInRange actions) ↔
      ∀ before rest, actions = before ++ .analyze :: rest →
        ((Trail.start o).after before).SkipsNoMore) := by
  have hleads {api : Api} {reached : List Action} (h : (Context.start api o).Completes reached) :
      ((Trail.start o).after reached).LeadsTo api ((Context.start api o).after reached) :=
    Trail.leadsTo_after (Trail.leadsTo_start api o) h
  refine ⟨?_, fun api hdone => (hleads hdone).analysisInRange,
    fun api => Context.completes_iff_staysInRange, ?_, ?_⟩
  · intro api b hdone hb
    obtain ⟨o', -, rfl⟩ := (hleads hdone).bindings_eq_some hb
    exact Statistics.classes_lower_le api o'
  · rintro h before rest rfl
    have hdone (api : Api) : (Context.start api o).Completes before :=
      (Context.completes_append.mp (Context.completes_iff_staysInRange.mpr (h api))).1
    exact Trail.skipsNoMore_of_analysisInRange (fun api => hleads (hdone api))
      fun api => h api before rest rfl (hdone api)
  · intro h api before rest hsplit hdone
    exact (hleads hdone).analysisInRange
      (Trail.covers_of_skipsNoMore (h before rest hsplit) api)

/-- Turning strict and skipping less than before does no harm to tables that are there. -/
theorem analysis_in_range_of_fewer_skipped :
    (Context.start (Statistics.probe "Node") .standard).Completes
        [.lower, .setStrict true, .setSkipClasses ["int"]] ∧
      ((Trail.start .standard).after [.lower, .setStrict true, .setSkipClasses ["int"]]).Covers
        (Statistics.probe "Node") ∧
      ((Context.start (Statistics.probe "Node") .standard).after
        [.lower, .setStrict true, .setSkipClasses ["int"]]).AnalysisInRange := by
  have hdone : (Context.start (Statistics.probe "Node") .standard).Completes
      [.lower, .setStrict true, .setSkipClasses ["int"]] := by
    simp [Context.isFatal_eq_false_iff, Context.Completes, Context.history]
  have hcovers : ((Trail.start .standard).after
      [.lower, .setStrict true, .setSkipClasses ["int"]]).Covers (Statistics.probe "Node") := by
    apply Trail.covers_of_skipsNoMore
    intro o' ho name hnow
    cases ho
    have hname : name = "int" := by simpa [Trail.after, Trail.step, Options.skips] using hnow
    rw [hname]
    rfl
  exact ⟨hdone, hcovers,
    (analysis_in_range_exactly .standard _).2.1 (Statistics.probe "Node") hdone hcovers⟩

/-- The class is lowered, then skipped, and its method is to be taken from no methods. -/
theorem analysis_fails_once_lowered_class_is_skipped :
    (Context.start (Statistics.probe "Node") .standard).Completes
        [.lower, .setSkipClasses ["Node"]] ∧
      ¬ ((Context.start (Statistics.probe "Node") .standard).after
        [.lower, .setSkipClasses ["Node"]]).AnalysisInRange ∧
      ((Context.start (Statistics.probe "Node") .standard).after
        [.lower, .setSkipClasses ["Node"]]).analyze.2 = .error .countBelowZero := by
  have hout : ¬ ((Context.start (Statistics.probe "Node") .standard).after
      [.lower, .setSkipClasses ["Node"]]).AnalysisInRange := by
    intro h
    have hin := h ((Statistics.probe "Node").lower .standard) rfl
    exact Statistics.not_inRange_probe rfl rfl hin
  refine ⟨?_, hout, Context.analyze_eq_countBelowZero_iff.mpr hout⟩
  simp [Context.isFatal_eq_false_iff, Context.Completes, Context.history]

end BindingTables

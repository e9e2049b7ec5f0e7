import BindingTables.Proofs.Accessors.Missing
import BindingTables.Proofs.Pipeline.Plain

/-! Strictness turns the warnings about missing accessors into errors, and does nothing else: of a
strict run and a lenient one over the same classes, the one can be told from the other. -/

namespace BindingTables

variable {σ : Type} {api : Api} {o : Options} {skip : List String} {record : σ}

namespace Options

/-- The options that skip these classes and let missing accessors pass. -/
def lenient (skip : List String) : Options := ⟨skip, false⟩

/-- The options that skip these classes and let no missing accessor pass. -/
def strict (skip : List String) : Options := ⟨skip, true⟩

end Options

namespace Diagnostic

/-- The same remark as an error. -/
def promote (d : Diagnostic) : Diagnostic := { d with severity := .error }

/-- Two remarks that differ in nothing but how grave they are. -/
structure SameText (d d' : Diagnostic) : Prop where
  phase : d.phase = d'.phase
  message : d.message = d'.message
  location : d.location = d'.location

theorem sameText_refl (d : Diagnostic) : d.SameText d := ⟨rfl, rfl, rfl⟩

theorem sameText_promote (d : Diagnostic) : d.SameText d.promote := ⟨rfl, rfl, rfl⟩

theorem forall₂_sameText_promote (ds : List Diagnostic) :
    List.Forall₂ SameText ds (ds.map promote) := by
  rw [List.forall₂_map_right_iff, List.forall₂_same]
  intro d _
  exact sameText_promote d

end Diagnostic

namespace Lint

namespace MissingAccessor

theorem checkAccessor_error (s : Section) (c : Class) (p : Property) (a : String × Accessor) :
    checkAccessor .error s c p a
      = (checkAccessor .warning s c p a).map Diagnostic.promote := by
  obtain ⟨role, _ | name | declared⟩ := a <;> rfl

theorem checkClass_error (s : Section) (c : Class) :
    checkClass .error s c = (checkClass .warning s c).map Diagnostic.promote := by
  rw [checkClass, checkClass, List.map_flatMap]
  simp only [List.map_filterMap, checkAccessor_error]

/-- Strict and lenient lints go over the same classes and remark on the same accessors. -/
theorem check_strict (api : Api) (skip : List String) : missingAccessor.check api (.strict skip)
    = (missingAccessor.check api (.lenient skip)).map Diagnostic.promote := by
  change ((Options.lenient skip).boundClasses api).flatMap (fun c => checkClass .error c.1 c.2)
    = List.map _ (((Options.lenient skip).boundClasses api).flatMap
        fun c => checkClass .warning c.1 c.2)
  rw [List.map_flatMap]
  simp only [checkClass_error]

theorem severity_of_mem_check {d : Diagnostic} (hd : d ∈ missingAccessor.check api o) :
    d.severity = o.accessorSeverity := by
  obtain ⟨i, hi, rfl⟩ := List.getElem_of_mem hd
  have hreports := forall₂_check api o
  obtain ⟨declared, hreported⟩ := hreports.get hi (hreports.length_eq ▸ hi)
  exact congrArg Diagnostic.severity hreported

theorem length_check (api : Api) (o : Options) :
    (missingAccessor.check api o).length = o.declared api Class.missingAccessors := by
  rw [(forall₂_check api o).length_eq, Api.length_gaps_lower]

end MissingAccessor

/-- What the lints behind the first report. -/
def laterFindings (api : Api) (o : Options) : List Diagnostic :=
  enumCollision.check api o ++ utilityAllowList.check api o

theorem findings_eq (api : Api) (o : Options) :
    findings api o = missingAccessor.check api o ++ laterFindings api o := by
  simp [findings, standard, laterFindings]

theorem laterFindings_strict (api : Api) (skip : List String) :
    laterFindings api (.strict skip) = laterFindings api (.lenient skip) := rfl

namespace MissingAccessor

theorem isError_lenient {d : Diagnostic} (hd : d ∈ missingAccessor.check api (.lenient skip)) :
    d.isError = false := by
  rw [Diagnostic.isError, severity_of_mem_check hd]
  rfl

theorem isError_strict {d : Diagnostic} (hd : d ∈ missingAccessor.check api (.strict skip)) :
    d.isError = true := by
  rw [Diagnostic.isError, severity_of_mem_check hd]
  rfl

end MissingAccessor

theorem findings_lenient_clean_iff : (∀ d ∈ findings api (.lenient skip), d.isError = false) ↔
    ∀ d ∈ laterFindings api (.lenient skip), d.isError = false := by
  rw [findings_eq, List.forall_mem_append]
  exact and_iff_right fun _ => MissingAccessor.isError_lenient

/-- A strict run has to find every accessor. -/
theorem findings_strict_clean_iff : (∀ d ∈ findings api (.strict skip), d.isError = false) ↔
    (∀ d ∈ laterFindings api (.lenient skip), d.isError = false) ∧
      missingAccessor.check api (.lenient skip) = [] := by
  rw [findings_eq, List.forall_mem_append, laterFindings_strict, and_comm]
  apply and_congr_right
  intro _
  constructor
  · intro hclean
    have hnone : missingAccessor.check api (.strict skip) = [] := by
      rw [List.eq_nil_iff_forall_not_mem]
      intro d hd
      have hd' := hclean d hd
      rw [MissingAccessor.isError_strict hd] at hd'
      cases hd'
    rwa [MissingAccessor.check_strict, List.map_eq_nil_iff] at hnone
  · intro hnone
    rw [MissingAccessor.check_strict, hnone]
    simp

/-- Every accessor that a lenient run warns of counts as an error in a strict one. -/
theorem count_errors_strict (api : Api) (skip : List String) :
    ((findings api (.strict skip)).filter (·.isError)).length
      = ((findings api (.lenient skip)).filter (·.isError)).length
        + (Options.lenient skip).declared api Class.missingAccessors := by
  have hall : (missingAccessor.check api (.strict skip)).filter (·.isError)
      = missingAccessor.check api (.strict skip) :=
    List.filter_eq_self.mpr fun _ => MissingAccessor.isError_strict
  have hnone : (missingAccessor.check api (.lenient skip)).filter (·.isError) = [] := by
    rw [List.filter_eq_nil_iff]
    intro d hd
    simp [MissingAccessor.isError_lenient hd]
  rw [findings_eq, findings_eq, List.filter_append, List.filter_append, hall, hnone,
    laterFindings_strict, List.length_append, List.nil_append, MissingAccessor.check_strict,
    List.length_map, MissingAccessor.length_check, Nat.add_comm]

theorem forall₂_findings (api : Api) (skip : List String) : List.Forall₂ Diagnostic.SameText
    (findings api (.lenient skip)) (findings api (.strict skip)) := by
  rw [findings_eq, findings_eq, MissingAccessor.check_strict, laterFindings_strict]
  have hlater : List.Forall₂ Diagnostic.SameText (laterFindings api (.lenient skip))
      (laterFindings api (.lenient skip)) :=
    List.forall₂_same.mpr fun d _ => d.sameText_refl
  exact List.rel_append (Diagnostic.forall₂_sameText_promote _) hlater

end Lint

/-- What comes of being strict: the outcome of a strict run beside that of a lenient one. -/
structure Pipeline.Promotes (api : Api) (skip : List String)
    (lenient strict : Run σ × Except Failure Unit) : Prop where
  same_text : List.Forall₂ Diagnostic.SameText
    lenient.1.context.diagnostics strict.1.context.diagnostics
  /-- From the last remark on a missing accessor on, both runs have one record. -/
  same_rest : ∃ rest,
    lenient.1.context.diagnostics = Lint.missingAccessor.check api (.lenient skip) ++ rest ∧
    strict.1.context.diagnostics = Lint.missingAccessor.check api (.strict skip) ++ rest
  warnings : ∀ d ∈ Lint.missingAccessor.check api (.lenient skip), d.severity = .warning
  errors : ∀ d ∈ Lint.missingAccessor.check api (.strict skip), d.severity = .error
  success : strict.2 = .ok () ↔
    lenient.2 = .ok () ∧ Lint.missingAccessor.check api (.lenient skip) = []
  same_results : strict.2 = .ok () → ∃ b s,
    lenient.1.context.bindings = some b ∧ strict.1.context.bindings = some b ∧
    lenient.1.context.statistics = some s ∧ strict.1.context.statistics = some s
  error_count : strict.1.context.errors.length = lenient.1.context.errors.length
    + (Options.lenient skip).declared api Class.missingAccessors

namespace Pipeline

theorem success_strict_iff : ((plain (.strict skip)).runCollecting api record).2 = .ok () ↔
    ((plain (.lenient skip)).runCollecting api record).2 = .ok () ∧
      Lint.missingAccessor.check api (.lenient skip) = [] := by
  rw [runCollecting_plain_ok_iff, runCollecting_plain_ok_iff, Lint.findings_strict_clean_iff,
    Lint.findings_lenient_clean_iff]

/-- A strict run differs from a lenient one in that what this warns of as a missing accessor is an
error in that: it succeeds if the other does and there is no such accessor, with like results. -/
theorem strictness_promotes_missing_accessors (api : Api) (skip : List String) (record : σ) :
    Promotes api skip ((plain (.lenient skip)).runCollecting api record)
      ((plain (.strict skip)).runCollecting api record) := by
  refine ⟨?_, ⟨Lint.laterFindings api (.lenient skip), ?_, ?_⟩,
    fun _ => Lint.MissingAccessor.severity_of_mem_check,
    fun _ => Lint.MissingAccessor.severity_of_mem_check, success_strict_iff, ?_, ?_⟩
  · rw [diagnostics_runCollecting_plain, diagnostics_runCollecting_plain]
    exact Lint.forall₂_findings api skip
  · rw [diagnostics_runCollecting_plain, Lint.findings_eq]
  · rw [diagnostics_runCollecting_plain, Lint.findings_eq, Lint.laterFindings_strict]
  · intro hstrict
    have hlenient := (success_strict_iff.mp hstrict).1
    rw [runCollecting_plain_of_ok hstrict, runCollecting_plain_of_ok hlenient]
    obtain ⟨s, hs⟩ := Statistics.exists_compute?_lower api (.lenient skip)
    -- Neither the tables nor their statistics depend on whether a run is strict.
    exact ⟨api.lower (.lenient skip), s, rfl, rfl, hs, hs⟩
  · rw [Context.errors, Context.errors, diagnostics_runCollecting_plain,
      diagnostics_runCollecting_plain]
    exact Lint.count_errors_strict api skip

end Pipeline

end BindingTables

import BindingTables.Proofs.Bindings.Classes
import BindingTables.Proofs.Pipeline.Plain

/-! Accessors in the tables that name a method of the table of their class. Accessors are found
among all methods that the class declares, and some of these are left out of its table. -/

namespace BindingTables

open BindingTables.Text

variable {σ : Type} {api : Api} {o : Options} {c : Class} {p : Property}
  {declared name x : String} {s : Section}

namespace Accessor

/-- The name without the underscores around it. -/
def trimmed (declared : String) : String :=
  String.ofList (trimBoth (· = '_') declared.toList)

/-- The method that a declared accessor is found as. -/
inductive Finds (c : Class) (declared : String) : String → Prop
  | exact : c.declares declared = true → Finds c declared declared
  | trimmed : c.declares declared = false → c.declares (trimmed declared) = true →
    Finds c declared (trimmed declared)

theorem find_eq : find c declared =
    if c.declares declared then .resolved (Identifier.pascal declared)
    else if c.declares (trimmed declared) then .resolved (Identifier.pascal (trimmed declared))
    else .missing declared := rfl

theorem find_eq_resolved_iff : find c declared = .resolved x ↔
    ∃ name, Finds c declared name ∧ Identifier.pascal name = x := by
  rw [find_eq]
  constructor
  · intro h
    split at h
    · rename_i hd
      exact ⟨declared, .exact hd, Accessor.resolved.inj h⟩
    · rename_i hd
      split at h
      · rename_i ht
        exact ⟨trimmed declared, .trimmed (by simpa using hd) ht, Accessor.resolved.inj h⟩
      · cases h
  · rintro ⟨name, hn, rfl⟩
    cases hn with
    | exact hd => rw [if_pos hd]
    | trimmed hd ht => simp [hd, ht]

theorem resolved?_eq_some_iff {a : Accessor} : a.resolved? = some x ↔ a = .resolved x := by
  cases a <;> simp [resolved?]

theorem resolved?_ofDeclared_iff {accessor : Option String} :
    (ofDeclared c accessor).resolved? = some x ↔ ∃ declared, accessor = some declared ∧
      declared ≠ "" ∧ ∃ name, Finds c declared name ∧ Identifier.pascal name = x := by
  rw [resolved?_eq_some_iff]
  cases accessor with
  | none => simp [ofDeclared]
  | some declared =>
    rw [ofDeclared]
    split
    · rename_i he
      simp [he]
    · rename_i he
      simp [he, find_eq_resolved_iff]

end Accessor

/-- Scripts can call a method of the class by this name. -/
def Class.Answers (c : Class) (x : String) : Prop :=
  ∃ m ∈ c.methods, m.isVirtual = false ∧ ¬ (c.name = rootClass ∧ m.name ∈ handBound) ∧
    Identifier.pascal m.name = x

/-- The table of the class has a method of this name. -/
def ClassBinding.Binds (t : ClassBinding) (x : String) : Prop :=
  ∃ m ∈ t.methods, m.scriptName = x

/-- Each accessor in the tables names a method in the table of its class. -/
def Bindings.NoneDangling (b : Bindings) : Prop :=
  ∀ t ∈ b.allClasses, ∀ p ∈ t.properties, ∀ x, p.setter = some x ∨ p.getter = some x → t.Binds x

/-- Each method that a declared accessor of the class is found as can be called, or another one
can that has the same name in scripts. -/
def Class.FindsCallable (c : Class) : Prop :=
  ∀ p ∈ c.properties, ∀ declared, p.setter = some declared ∨ p.getter = some declared →
    declared ≠ "" → ∀ name, Accessor.Finds c declared name → c.Answers (Identifier.pascal name)

theorem Method.isSkipped_eq_false_iff {m : Method} : m.isSkipped c.name = false ↔
    m.isVirtual = false ∧ ¬ (c.name = rootClass ∧ m.name ∈ handBound) := by
  simp [isSkipped]

namespace Class

theorem binds_lower_iff {kind : ClassKind} : (c.lower api kind).Binds x ↔ c.Answers x := by
  constructor
  · rintro ⟨m, hm, rfl⟩
    obtain ⟨n, hn, rfl⟩ := List.mem_map.mp hm
    obtain ⟨hmem, hskip⟩ := List.mem_filter.mp hn
    obtain ⟨hv, hh⟩ := Method.isSkipped_eq_false_iff.mp (by simpa using hskip)
    exact ⟨n, hmem, hv, hh, rfl⟩
  · rintro ⟨m, hmem, hv, hh, rfl⟩
    have hskip : m.isSkipped c.name = false := Method.isSkipped_eq_false_iff.mpr ⟨hv, hh⟩
    have hm : m ∈ c.bindableMethods := List.mem_filter.mpr ⟨hmem, by simp [hskip]⟩
    exact ⟨m.lower, List.mem_map_of_mem hm, rfl⟩

/-- The table of one class is in order exactly if the class finds its accessors callable. -/
theorem accessors_lower_iff {kind : ClassKind} :
    (∀ q ∈ (c.lower api kind).properties, ∀ x, q.setter = some x ∨ q.getter = some x →
      (c.lower api kind).Binds x) ↔ c.FindsCallable := by
  constructor
  · intro h p hp declared hd hne name hn
    have hq : p.lower c ∈ (c.lower api kind).properties := List.mem_map_of_mem hp
    refine binds_lower_iff.mp (h (p.lower c) hq _ ?_)
    rcases hd with hd | hd
    · exact Or.inl (Accessor.resolved?_ofDeclared_iff.mpr ⟨declared, hd, hne, name, hn, rfl⟩)
    · exact Or.inr (Accessor.resolved?_ofDeclared_iff.mpr ⟨declared, hd, hne, name, hn, rfl⟩)
  · intro h q hq x hx
    obtain ⟨p, hp, rfl⟩ := List.mem_map.mp hq
    rw [binds_lower_iff]
    rcases hx with hx | hx
    · obtain ⟨declared, hd, hne, name, hn, rfl⟩ := Accessor.resolved?_ofDeclared_iff.mp hx
      exact h p hp declared (Or.inl hd) hne name hn
    · obtain ⟨declared, hd, hne, name, hn, rfl⟩ := Accessor.resolved?_ofDeclared_iff.mp hx
      exact h p hp declared (Or.inr hd) hne name hn

end Class

theorem Api.noneDangling_lower_iff :
    (api.lower o).NoneDangling ↔ ∀ c ∈ o.boundClasses api, c.2.FindsCallable := by
  rw [Bindings.NoneDangling, Api.allClasses_lower]
  simp only [List.forall_mem_map]
  constructor
  · intro h c hc
    exact Class.accessors_lower_iff.mp (h c hc)
  · intro h c hc
    exact Class.accessors_lower_iff.mpr (h c hc)

/-- The tables that a run of the standard phases leaves have no dangling accessor exactly if each
bound class finds its accessors callable. -/
theorem noneDangling_iff_findsCallable (api : Api) (o : Options) (record : σ)
    (h : ((Pipeline.plain o).runCollecting api record).2 = .ok ()) : ∃ b,
      ((Pipeline.plain o).runCollecting api record).1.context.bindings = some b ∧
      (b.NoneDangling ↔ ∀ c ∈ o.boundClasses api, c.2.FindsCallable) :=
  ⟨api.lower o, Pipeline.bindings_runCollecting_plain h, Api.noneDangling_lower_iff⟩

namespace Accessor

def method (name : String) (isVirtual : Bool) : Method :=
  ⟨name, isVirtual, false, false, false, [], none, none⟩

/-- Its getter goes by the name of a virtual method, beside the method that scripts can call. -/
def range : Class where
  name := "Range"
  inherits := none
  isRefcounted := false
  isInstantiable := true
  methods := [method "_get_value" true, method "get_value" false]
  properties := [⟨"value", "float", none, some "_get_value"⟩]
  operators := []
  enums := []

def rangeApi : Api := ⟨none, [], [], [], [range], []⟩

theorem rangeApi_runs : ((Pipeline.plain .standard).runCollecting rangeApi ()).2 = .ok () :=
  Pipeline.runCollecting_plain_ok_iff.mpr (by decide)

theorem range_noneDangling_iff_findsCallable :
    ((Pipeline.plain .standard).runCollecting rangeApi ()).2 = .ok () ∧ ∃ b,
      ((Pipeline.plain .standard).runCollecting rangeApi ()).1.context.bindings = some b ∧
      (b.NoneDangling ↔ ∀ c ∈ Options.standard.boundClasses rangeApi, c.2.FindsCallable) :=
  ⟨rangeApi_runs, noneDangling_iff_findsCallable rangeApi .standard () rangeApi_runs⟩

/-- The getter is bound as `_GetValue`, and the table has `GetValue` alone. -/
theorem range_getter_dangles :
    ((Pipeline.plain .standard).runCollecting rangeApi ()).2 = .ok () ∧ ∃ b,
      ((Pipeline.plain .standard).runCollecting rangeApi ()).1.context.bindings = some b ∧
      ¬ b.NoneDangling := by
  refine ⟨rangeApi_runs, rangeApi.lower .standard,
    Pipeline.bindings_runCollecting_plain rangeApi_runs, ?_⟩
  intro h
  obtain ⟨m, hm, hname⟩ := h (range.lower rangeApi .object) (List.mem_singleton.mpr rfl)
    ((⟨"value", "float", none, some "_get_value"⟩ : Property).lower range)
    (List.mem_singleton.mpr rfl) "_GetValue" (Or.inr rfl)
  have hall : ∀ m ∈ (range.lower rangeApi .object).methods, m.scriptName = "GetValue" := by
    decide
  rw [hall m hm] at hname
  exact absurd hname (by decide)

end Accessor

end BindingTables

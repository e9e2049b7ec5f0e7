import BindingTables.Lint.MissingAccessor
import BindingTables.Proofs.Accessors.Callable

/-! Missing accessors: the lint reports those that the tables mark, in the order of the tables, and
the statistics count as many. -/

namespace BindingTables

variable {api : Api} {o : Options} {c : Class} {p : Property}

/-- How grave an accessor is that names no method. -/
def Options.accessorSeverity (o : Options) : Severity :=
  if o.strictAccessors then .error else .warning

/-- An accessor that is marked as missing in the tables. -/
structure Gap where
  place : Section
  className : String
  property : String
  role : String
deriving DecidableEq

namespace Gap

def location (g : Gap) : String := s!"{g.place.pathOf g.className}.properties.{g.property}"

theorem location_eq (g : Gap) :
    g.location = s!"{g.place.key}.{g.className}.properties.{g.property}" := by
  rw [location, Section.pathOf_eq]
  rfl

def message (g : Gap) (name : String) : String :=
  s!"{g.role} '{name}' of property '{g.className}.{g.property}' is not a method of '{g.className}'"

/-- The diagnostic is about the gap. -/
def Reported (severity : Severity) (d : Diagnostic) (g : Gap) : Prop :=
  ∃ declared, d = ⟨severity, "validate", g.message declared, some g.location⟩

end Gap

/-- The roles in which an accessor is marked as missing, the setter before the getter. -/
def PropertyBinding.missingRoles (p : PropertyBinding) : List String :=
  (if p.setterMissing then ["setter"] else []) ++ if p.getterMissing then ["getter"] else []

def ClassBinding.gaps (s : Section) (t : ClassBinding) : List Gap :=
  t.properties.flatMap fun p => p.missingRoles.map fun role => ⟨s, t.name, p.name, role⟩

/-- The gaps in the tables, those of builtin classes first. -/
def Bindings.gaps (b : Bindings) : List Gap :=
  b.builtinClasses.flatMap (·.gaps .builtin) ++ b.classes.flatMap (·.gaps .engine)

/-- What a table says of an accessor, against the name that the property declares for it. -/
structure Accessor.Told (c : Class) (declared bound : Option String) (missing : Bool) : Prop where
  missing_iff : missing = true ↔ ∃ name, declared = some name ∧ name ≠ "" ∧
    c.declares name = false ∧ c.declares (trimmed name) = false
  none_of_missing : missing = true → bound = none
  absent_iff : bound = none ∧ missing = false ↔ declared = none ∨ declared = some ""

/-- What a table says of a property. -/
structure PropertyBinding.Tells (b : PropertyBinding) (c : Class) (p : Property) : Prop where
  name : b.name = p.name
  setter : Accessor.Told c p.setter b.setter b.setterMissing
  getter : Accessor.Told c p.getter b.getter b.getterMissing

namespace Accessor

theorem told_find (c : Class) {name : String} (hn : name ≠ "") :
    Told c (some name) (find c name).resolved? (find c name).isMissing := by
  rw [find_eq]
  cases hd : c.declares name with
  | true => exact ⟨by simp [isMissing, hd], by simp [isMissing], by simp [resolved?, hn]⟩
  | false =>
    cases ht : c.declares (trimmed name) with
    | true => exact ⟨by simp [isMissing, ht], by simp [isMissing], by simp [resolved?, hn]⟩
    | false => exact ⟨by simp [isMissing, hd, ht, hn], by simp [resolved?],
        by simp [isMissing, hn]⟩

/-- The empty text declares no accessor. -/
theorem told_ofDeclared (c : Class) (declared : Option String) :
    Told c declared (ofDeclared c declared).resolved? (ofDeclared c declared).isMissing := by
  have habsent : declared = none ∨ declared = some "" →
      Told c declared absent.resolved? absent.isMissing := by
    intro h
    refine ⟨?_, fun _ => rfl, by simpa [resolved?, isMissing] using h⟩
    rcases h with rfl | rfl <;> simp [isMissing]
  cases declared with
  | none => exact habsent (Or.inl rfl)
  | some name =>
    rw [ofDeclared]
    split
    · rename_i he
      exact habsent (Or.inr (by rw [he]))
    · rename_i hn
      exact told_find c hn

end Accessor

theorem Property.tells_lower (p : Property) (c : Class) : (p.lower c).Tells c p :=
  ⟨rfl, Accessor.told_ofDeclared c p.setter, Accessor.told_ofDeclared c p.getter⟩

/-- Lists that correspond piece by piece do so as wholes. -/
theorem forall₂_flatMap {α β γ : Type} {R : β → γ → Prop} {f : α → List β} {g : α → List γ}
    (h : ∀ a, List.Forall₂ R (f a) (g a)) (l : List α) :
    List.Forall₂ R (l.flatMap f) (l.flatMap g) := by
  refine List.rel_flatMap (List.forall₂_same.mpr fun a _ => (rfl : a = a)) ?_
  rintro a _ rfl
  exact h a

/-- The gap that an accessor of the class leaves, if it is missing. -/
def Accessor.gap? (s : Section) (c : Class) (p : Property) (a : String × Accessor) : Option Gap :=
  if a.2.isMissing then some ⟨s, c.name, p.name, a.1⟩ else none

namespace Class

theorem gaps_lower (s : Section) (kind : ClassKind) (c : Class) : (c.lower api kind).gaps s =
    c.properties.flatMap fun p => (p.accessorsIn c).filterMap (Accessor.gap? s c p) := by
  rw [ClassBinding.gaps, lower, List.flatMap_map]
  congr 1
  funext p
  rw [PropertyBinding.missingRoles, Property.lower, Property.accessorsIn]
  cases hs : (p.setterIn c).isMissing <;> cases hg : (p.getterIn c).isMissing <;>
    simp [Accessor.gap?, hs, hg]

theorem length_gaps_lower (s : Section) (kind : ClassKind) (c : Class) :
    ((c.lower api kind).gaps s).length = c.missingAccessors := by
  rw [gaps_lower, length_flatMap_eq_total, missingAccessors]
  congr 2
  funext p
  rw [List.length_filterMap_eq_countP]
  apply List.countP_congr
  rintro ⟨role, a⟩ _
  cases a <;> simp [Accessor.gap?, Accessor.isMissing]

end Class

namespace Lint.MissingAccessor

/-- The lint and the tables look at one resolution of the accessors. -/
theorem forall₂_checkAccessor (severity : Severity) (s : Section) (c : Class) (p : Property)
    (accessors : List (String × Accessor)) :
    List.Forall₂ (Gap.Reported severity)
      (accessors.filterMap (checkAccessor severity s c p))
      (accessors.filterMap (Accessor.gap? s c p)) := by
  induction accessors with
  | nil => exact .nil
  | cons a rest ih =>
    obtain ⟨role, _ | name | declared⟩ := a
    -- Both filters pass over an accessor that is absent or resolved.
    · exact ih
    · exact ih
    · exact .cons ⟨declared, by rw [Gap.location_eq]; rfl⟩ ih

theorem forall₂_checkClass (severity : Severity) (s : Section) (kind : ClassKind) (c : Class) :
    List.Forall₂ (Gap.Reported severity) (checkClass severity s c)
      ((c.lower api kind).gaps s) := by
  rw [checkClass, Class.gaps_lower]
  exact forall₂_flatMap (fun p => forall₂_checkAccessor severity s c p _) c.properties

end Lint.MissingAccessor

namespace Api

theorem gaps_lower : (api.lower o).gaps =
    (o.boundClasses api).flatMap fun c => (c.2.lower api c.1.kind).gaps c.1 := by
  rw [Options.boundClasses_eq, List.flatMap_append, List.flatMap_map, List.flatMap_map,
    Bindings.gaps]
  simp only [lower, lowerClasses, List.flatMap_map]
  rfl

theorem length_gaps_lower :
    (api.lower o).gaps.length = o.declared api Class.missingAccessors := by
  rw [gaps_lower, length_flatMap_eq_total, Options.declared, List.map_map]
  simp only [Class.length_gaps_lower]
  rfl

theorem forall₂_tells_lower : List.Forall₂ (fun c t => t.name = c.2.name ∧
    List.Forall₂ (fun p b => PropertyBinding.Tells b c.2 p) c.2.properties t.properties)
    (o.boundClasses api) (api.lower o).allClasses := by
  apply forall₂_allClasses_lower
  intro c _
  refine ⟨rfl, ?_⟩
  rw [Class.lower, List.forall₂_map_right_iff, List.forall₂_same]
  intro p _
  exact p.tells_lower c.2

end Api

/-- The lint goes through the classes as the tables do. -/
theorem Lint.MissingAccessor.forall₂_check (api : Api) (o : Options) :
    List.Forall₂ (Gap.Reported o.accessorSeverity) (missingAccessor.check api o)
      (api.lower o).gaps := by
  have hclass (c : Section × Class) : List.Forall₂ (Gap.Reported o.accessorSeverity)
      (checkClass o.accessorSeverity c.1 c.2) ((c.2.lower api c.1.kind).gaps c.1) :=
    forall₂_checkClass _ c.1 c.1.kind c.2
  rw [Api.gaps_lower]
  exact forall₂_flatMap hclass (o.boundClasses api)

/-- The lint reports the accessors that the tables mark as missing, one by one and in their order;
the statistics count as many; and what the tables say of each accessor fits its declaration. -/
theorem missing_accessors_agree (api : Api) (o : Options) :
    List.Forall₂ (Gap.Reported o.accessorSeverity) (Lint.missingAccessor.check api o)
      (api.lower o).gaps ∧
    (Lint.missingAccessor.check api o).length = (api.lower o).gaps.length ∧
    (∃ s, Statistics.compute? api o (api.lower o) = some s ∧
      s.missingAccessors = (api.lower o).gaps.length) ∧
    List.Forall₂ (fun c t => t.name = c.2.name ∧
      List.Forall₂ (fun p b => PropertyBinding.Tells b c.2 p) c.2.properties t.properties)
      (o.boundClasses api) (api.lower o).allClasses := by
  have hreports := Lint.MissingAccessor.forall₂_check api o
  obtain ⟨s, hs⟩ := Statistics.exists_compute?_lower api o
  have hcount := (Statistics.compute?_eq_some_iff.mp hs).missingAccessors
  exact ⟨hreports, hreports.length_eq, ⟨s, hs, hcount.trans Api.length_gaps_lower.symm⟩,
    Api.forall₂_tells_lower⟩

end BindingTables

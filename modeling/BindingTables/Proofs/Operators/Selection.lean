import Mathlib.Data.List.Basic
import BindingTables.Proofs.Operators.Ranking

/-! Which operators of a class are bound, and in which order, said without the scan that picks
them: whether one is kept does not depend on where the others are declared. -/

namespace BindingTables

namespace Operator

variable {className : String} {operators others : List Operator} {o : Operator} {m : Metamethod}
  {floatBound : Bool}

/-- The operator has a metamethod, and if that is equality, compares with the class itself. -/
def Bindable (className : String) (o : Operator) : Prop :=
  (Metamethod.ofSymbol? o.symbol).isSome ∧
    (Metamethod.ofSymbol? o.symbol = some .eq → ∀ t ∈ o.rightType, t = className)

instance : DecidablePred (Bindable className) := fun _ => inferInstanceAs (Decidable (_ ∧ _))

/-- An overload for `float` can be bound, whichever operation it is of. -/
def FloatServed (className : String) (operators : List Operator) : Prop :=
  ∃ f ∈ operators, f.rightType = some "float" ∧ f.Bindable className

instance : Decidable (FloatServed className operators) :=
  inferInstanceAs (Decidable (∃ f ∈ operators, _ ∧ _))

/-- The operator can be bound, and where it takes an `int`, no overload for `float` can. -/
def Kept (className : String) (operators : List Operator) (o : Operator) : Prop :=
  o.Bindable className ∧ (o.rightType = some "int" → ¬ FloatServed className operators)

instance : DecidablePred (Kept className operators) :=
  fun _ => inferInstanceAs (Decidable (_ ∧ (_ → _)))

/-- The operator with its metamethod, if it is kept. -/
def kept? (className : String) (operators : List Operator) (o : Operator) :
    Option (Operator × Metamethod) :=
  if o.Kept className operators then (Metamethod.ofSymbol? o.symbol).map (o, ·) else none

/-- Those kept whose right operand is of such a type, in the order of their declaration. -/
def keptOf (className : String) (operators : List Operator) (type : Option String → Bool) :
    List (Operator × Metamethod) :=
  (operators.filter (type ·.rightType)).filterMap (kept? className operators)

/-- Once bound, the operator makes overloads for `int` superfluous. -/
def bindsFloat (className : String) (o : Operator) : Bool :=
  o.rightType = some "float" ∧ o.Bindable className

theorem accepted_eq : o.accepted className floatBound =
    if o.Bindable className ∧ ¬ (o.rightType = some "int" ∧ floatBound) then
      Metamethod.ofSymbol? o.symbol
    else none := by
  rw [accepted]
  cases hm : Metamethod.ofSymbol? o.symbol with
  | none => simp
  | some m =>
    cases ht : o.rightType with
    | none => simp [Bindable, hm, ht]
    | some t =>
      by_cases heq : m = .eq ∧ t ≠ className
      · simp [Bindable, hm, ht, heq]
      · by_cases hint : t = "int" ∧ floatBound
        · simp [hint]
        · simp [Bindable, hm, ht, heq, hint]

/-- Whether a `float` overload is bound already matters to an `int` overload alone. -/
theorem accepted_congr {bound : Bool} (h : o.rightType = some "int" → floatBound = bound) :
    o.accepted className floatBound = o.accepted className bound := by
  rw [accepted_eq, accepted_eq]
  by_cases hint : o.rightType = some "int"
  · rw [h hint]
  · simp [hint]

theorem select_cons : select className floatBound (o :: operators) =
    ((o.accepted className floatBound).map (o, ·)).toList
      ++ select className (floatBound || o.bindsFloat className) operators := by
  have hfloat : o.rightType = some "float" →
      o.accepted className floatBound =
        if o.Bindable className then Metamethod.ofSymbol? o.symbol else none := by
    intro ht
    rw [accepted_eq]
    simp [ht]
  rw [select]
  cases ha : o.accepted className floatBound with
  | none =>
    have hnone : o.bindsFloat className = false := by
      by_contra hb
      obtain ⟨ht, hb⟩ : o.rightType = some "float" ∧ o.Bindable className := by
        simpa [bindsFloat] using hb
      rw [hfloat ht, if_pos hb] at ha
      simpa [ha] using hb.1
    simp [hnone]
  | some m =>
    have hsome : o.bindsFloat className = (o.rightType == some "float") := by
      by_cases ht : o.rightType = some "float"
      · have hb : o.Bindable className := by
          by_contra hb
          rw [hfloat ht, if_neg hb] at ha
          cases ha
        simp [bindsFloat, ht, hb]
      · simp [bindsFloat, ht]
    simp [hsome]

/-- Where no `float` overload stands behind an `int` overload, the scan knows of each when it
matters, as if it had seen all the operators before. -/
theorem select_eq_filterMap (h : operators.Pairwise fun a b =>
      a.rightType = some "int" → b.bindsFloat className = false) :
    select className floatBound operators = operators.filterMap fun o =>
      (o.accepted className (floatBound || operators.any (·.bindsFloat className))).map (o, ·) := by
  induction operators generalizing floatBound with
  | nil => rfl
  | cons o rest ih =>
    obtain ⟨hlate, hrest⟩ := List.pairwise_cons.mp h
    have haccepted : o.accepted className floatBound = o.accepted className
        (floatBound || (o :: rest).any (·.bindsFloat className)) := by
      apply accepted_congr
      intro hint
      have hself : o.bindsFloat className = false := by simp [bindsFloat, hint]
      have hnone : rest.any (·.bindsFloat className) = false := by
        rw [List.any_eq_false]
        intro f hf
        simp [hlate f hf hint]
      simp [hself, hnone]
    rw [select_cons, ih hrest, haccepted, List.any_cons, Bool.or_assoc, List.filterMap_cons]
    cases o.accepted className _ <;> rfl

/-- In order by rank, all overloads for `float` come before the first for `int`. -/
theorem float_before_int (operators : List Operator) : (ranked operators).Pairwise fun a b =>
    a.rightType = some "int" → b.bindsFloat className = false := by
  refine (pairwise_ranked operators).imp ?_
  intro a b hle hint
  by_contra hb
  obtain ⟨ht, -⟩ : b.rightType = some "float" ∧ b.Bindable className := by
    simpa [bindsFloat] using hb
  have hone := rank_eq_one_iff.mpr hint
  have hzero : b.rank = 0 := rank_eq_zero_iff.mpr (by simp [ht, dynamicType])
  omega

theorem any_bindsFloat_iff :
    operators.any (·.bindsFloat className) = true ↔ FloatServed className operators := by
  simp [FloatServed, bindsFloat]

theorem floatServed_perm (h : operators.Perm others) :
    FloatServed className operators ↔ FloatServed className others := by
  simp only [FloatServed, h.mem_iff]

/-- The operators are bound by rank, each for what it is beside all the others. -/
theorem resolve_eq_filterMap (className : String) (operators : List Operator) :
    resolve className operators = (ranked operators).filterMap (kept? className operators) := by
  rw [resolve, select_eq_filterMap (float_before_int operators)]
  apply List.filterMap_congr
  intro o _
  have hany : (false || (ranked operators).any (·.bindsFloat className)) = true
      ↔ FloatServed className operators := by
    rw [Bool.false_or, any_bindsFloat_iff, floatServed_perm (ranked_perm operators)]
  have hkept : o.Kept className operators ↔ o.Bindable className ∧ ¬ (o.rightType = some "int" ∧
      (false || (ranked operators).any (·.bindsFloat className)) = true) := by
    rw [hany, Kept, not_and]
  rw [accepted_eq, kept?]
  simp only [hkept]
  split <;> rfl

theorem resolve_perm_filterMap (className : String) (operators : List Operator) :
    (resolve className operators).Perm (operators.filterMap (kept? className operators)) := by
  rw [resolve_eq_filterMap]
  exact (ranked_perm operators).filterMap _

theorem kept?_eq_some_iff {p : Operator × Metamethod} : kept? className operators o = some p ↔
    p.1 = o ∧ o.Kept className operators ∧ Metamethod.ofSymbol? o.symbol = some p.2 := by
  rw [kept?]
  split
  · rename_i hk
    constructor
    · intro h
      obtain ⟨m, hm, rfl⟩ := Option.map_eq_some_iff.mp h
      exact ⟨rfl, hk, hm⟩
    · rintro ⟨rfl, -, hm⟩
      rw [hm]
      rfl
  · simp_all

theorem kept?_perm (h : operators.Perm others) :
    kept? className operators = kept? className others := by
  funext o
  have hkept : o.Kept className operators ↔ o.Kept className others := by
    rw [Kept, Kept, floatServed_perm h]
  simp only [kept?, hkept]

theorem mem_resolve_iff : (o, m) ∈ resolve className operators ↔
    o ∈ operators ∧ o.Kept className operators ∧ Metamethod.ofSymbol? o.symbol = some m := by
  rw [(resolve_perm_filterMap className operators).mem_iff, List.mem_filterMap]
  simp only [kept?_eq_some_iff]
  constructor
  · rintro ⟨_, hmem, rfl, hk, hm⟩
    exact ⟨hmem, hk, hm⟩
  · rintro ⟨hmem, hk, hm⟩
    exact ⟨o, hmem, rfl, hk, hm⟩

/-- An operator is bound as often as it is declared, or not at all. -/
theorem count_resolve (className : String) (operators : List Operator) (o : Operator)
    (m : Metamethod) : (resolve className operators).count (o, m) =
      if o.Kept className operators ∧ Metamethod.ofSymbol? o.symbol = some m then
        operators.count o
      else 0 := by
  split
  · rename_i h
    rw [(resolve_perm_filterMap className operators).count_eq, List.count, List.countP_filterMap,
      List.count]
    apply List.countP_congr
    intro a _
    have hbound : kept? className operators a = some (o, m) ↔ a = o := by
      rw [kept?_eq_some_iff]
      constructor
      · rintro ⟨ha, -, -⟩
        exact ha.symm
      · rintro rfl
        exact ⟨rfl, h⟩
    rw [beq_iff_eq, ← hbound]
    cases kept? className operators a <;> simp
  · rename_i h
    rw [List.count_eq_zero, mem_resolve_iff]
    exact fun hmem => h hmem.2

theorem resolve_eq_groups (className : String) (operators : List Operator) :
    resolve className operators =
      keptOf className operators (fun t => t ≠ some "int" ∧ t ≠ some dynamicType)
        ++ keptOf className operators (· = some "int")
        ++ keptOf className operators (· = some dynamicType) := by
  rw [resolve_eq_filterMap, ranked_eq_groups]
  simp only [List.flatMap_cons, List.flatMap_nil, List.append_nil, List.filterMap_append,
    rank_eq_zero_iff, rank_eq_one_iff, rank_eq_two_iff, keptOf, List.append_assoc]

theorem resolve_perm (h : operators.Perm others) :
    (resolve className operators).Perm (resolve className others) := by
  refine (resolve_perm_filterMap className operators).trans ?_
  refine .trans ?_ (resolve_perm_filterMap className others).symm
  rw [kept?_perm h]
  exact h.filterMap _

end Operator

/-- The operators of a class are bound in three groups, each in the order of declaration: those
without a right operand or with one of another type, those for `int`, and those for any value. An
operator is bound as often as it is declared if it is kept beside the others, under the metamethod
of its symbol, and else not at all; so no order of declaration leads to other operators. -/
theorem operators_selected_without_order (className : String) (operators : List Operator) :
    Operator.resolve className operators =
        Operator.keptOf className operators (fun t => t ≠ some "int" ∧ t ≠ some dynamicType)
          ++ Operator.keptOf className operators (· = some "int")
          ++ Operator.keptOf className operators (· = some dynamicType) ∧
      (∀ o m, (Operator.resolve className operators).count (o, m) =
        if o.Kept className operators ∧ Metamethod.ofSymbol? o.symbol = some m then
          operators.count o
        else 0) ∧
      ∀ others, operators.Perm others →
        (Operator.resolve className operators).Perm (Operator.resolve className others) :=
  ⟨Operator.resolve_eq_groups className operators, Operator.count_resolve className operators,
    fun _ => Operator.resolve_perm⟩

namespace Operator

/-- A class with an overload for `float`, which the one for `int` of the same operation is not
bound beside, and with comparisons that scripts never ask it for. -/
def planeOperators : List Operator :=
  [⟨"==", some "Variant", some "bool"⟩, ⟨"*", some "int", some "Plane"⟩,
    ⟨"*", some "float", some "Plane"⟩, ⟨"unary-", none, some "Plane"⟩,
    ⟨"==", some "Plane", some "bool"⟩, ⟨"in", some "Array", some "bool"⟩,
    ⟨"*", some "float", some "Plane"⟩]

theorem plane_operators_selected_without_order :
    planeOperators.Perm planeOperators.reverse ∧
      resolve "Plane" planeOperators =
        [(⟨"*", some "float", some "Plane"⟩, .mul), (⟨"unary-", none, some "Plane"⟩, .unm),
          (⟨"==", some "Plane", some "bool"⟩, .eq), (⟨"*", some "float", some "Plane"⟩, .mul)] ∧
      (resolve "Plane" planeOperators).Perm (resolve "Plane" planeOperators.reverse) := by
  obtain ⟨hgroups, -, hperm⟩ := operators_selected_without_order "Plane" planeOperators
  refine ⟨planeOperators.reverse_perm.symm, ?_, hperm _ planeOperators.reverse_perm.symm⟩
  rw [hgroups]
  decide

end Operator

end BindingTables

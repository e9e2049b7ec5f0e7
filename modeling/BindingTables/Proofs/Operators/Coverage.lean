import BindingTables.Proofs.Operators.Selection

/-! What becomes of the operations whose overload for `int` is not bound: one stays open to numbers
through its own overload for `float`, and is lost where only another operation has such an
overload. -/

namespace BindingTables.Operator

variable {className : String} {operators : List Operator} {o : Operator} {m : Metamethod}

/-- None of the bindings is of the operator. -/
def Dropped (className : String) (operators : List Operator) (o : Operator) : Prop :=
  ∀ m, (o, m) ∉ resolve className operators

/-- A binding of the metamethod takes a `float`. -/
def TakesNumber (className : String) (operators : List Operator) (m : Metamethod) : Prop :=
  ∃ f, f.rightType = some "float" ∧ (f, m) ∈ resolve className operators

/-- Where a bindable overload for `int` is dropped, the bindings of its metamethod still take
numbers. -/
def LosesNone (className : String) (operators : List Operator) : Prop :=
  ∀ o ∈ operators, o.rightType = some "int" → o.Bindable className →
    Dropped className operators o → ∀ m, Metamethod.ofSymbol? o.symbol = some m →
      TakesNumber className operators m

/-- The class has a bindable overload for `float` of the same operation. -/
def HasFloatTwin (className : String) (operators : List Operator) (o : Operator) : Prop :=
  ∃ f ∈ operators, f.rightType = some "float" ∧ f.Bindable className ∧
    Metamethod.ofSymbol? f.symbol = Metamethod.ofSymbol? o.symbol

theorem kept_of_float (ht : o.rightType = some "float") :
    o.Kept className operators ↔ o.Bindable className := by
  simp [Kept, ht]

theorem kept_of_int (ht : o.rightType = some "int") : o.Kept className operators ↔
    o.Bindable className ∧ ¬ FloatServed className operators := by
  simp [Kept, ht]

/-- An overload for `int` gives way to any overload for `float`. -/
theorem dropped_iff_floatServed (hmem : o ∈ operators) (ht : o.rightType = some "int")
    (hb : o.Bindable className) :
    Dropped className operators o ↔ FloatServed className operators := by
  obtain ⟨m, hm⟩ := Option.isSome_iff_exists.mp hb.1
  simp only [Dropped, mem_resolve_iff, kept_of_int ht]
  constructor
  · intro h
    by_contra hnone
    exact h m ⟨hmem, ⟨hb, hnone⟩, hm⟩
  · rintro hserved m ⟨-, ⟨-, hnone⟩, -⟩
    exact hnone hserved

theorem takesNumber_iff : TakesNumber className operators m ↔ ∃ f ∈ operators,
    f.rightType = some "float" ∧ f.Bindable className ∧ Metamethod.ofSymbol? f.symbol = some m := by
  constructor
  · rintro ⟨f, ht, hf⟩
    obtain ⟨hmem, hkept, hm⟩ := mem_resolve_iff.mp hf
    exact ⟨f, hmem, ht, (kept_of_float ht).mp hkept, hm⟩
  · rintro ⟨f, hmem, ht, hb, hm⟩
    exact ⟨f, ht, mem_resolve_iff.mpr ⟨hmem, (kept_of_float ht).mpr hb, hm⟩⟩

/-- An operation takes numbers exactly if it has an overload for `float` of its own. -/
theorem takesNumber_iff_hasFloatTwin (hm : Metamethod.ofSymbol? o.symbol = some m) :
    TakesNumber className operators m ↔ HasFloatTwin className operators o := by
  rw [takesNumber_iff, HasFloatTwin, hm]

/-- No operation on numbers is lost exactly if, once an overload for `float` can be bound, each
bindable overload for `int` has one for `float` of its own operation beside it. -/
theorem losesNone_iff_hasFloatTwin (className : String) (operators : List Operator) :
    LosesNone className operators ↔ (FloatServed className operators →
      ∀ o ∈ operators, o.rightType = some "int" → o.Bindable className →
        HasFloatTwin className operators o) := by
  constructor
  · intro h hserved o hmem ht hb
    obtain ⟨m, hm⟩ := Option.isSome_iff_exists.mp hb.1
    have hdropped := (dropped_iff_floatServed hmem ht hb).mpr hserved
    exact (takesNumber_iff_hasFloatTwin hm).mp (h o hmem ht hb hdropped m hm)
  · intro h o hmem ht hb hdropped m hm
    have hserved := (dropped_iff_floatServed hmem ht hb).mp hdropped
    exact (takesNumber_iff_hasFloatTwin hm).mpr (h hserved o hmem ht hb)

/-- A grid vector scales by numbers of either type and is reduced by whole ones alone. -/
def gridOperators : List Operator :=
  [⟨"*", some "int", some "Vector2i"⟩, ⟨"*", some "float", some "Vector2"⟩,
    ⟨"%", some "int", some "Vector2i"⟩]

/-- The overload of `*` for `float` ousts that of `%` for `int`, and no number can be taken the
remainder by. -/
theorem grid_loses_remainder : ¬ LosesNone "Vector2i" gridOperators := by
  intro h
  have hdropped : Dropped "Vector2i" gridOperators ⟨"%", some "int", some "Vector2i"⟩ :=
    (dropped_iff_floatServed (by decide) rfl (by decide)).mpr (by decide)
  have hnumber := h ⟨"%", some "int", some "Vector2i"⟩ (by decide) rfl (by decide) hdropped .mod rfl
  rw [takesNumber_iff] at hnumber
  revert hnumber
  decide

end BindingTables.Operator

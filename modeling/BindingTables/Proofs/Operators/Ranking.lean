import BindingTables.Resolve.Metamethod

/-! Operators by rank: what the stable sort leaves are three groups by the type of the right
operand, each in the order of declaration. -/

namespace BindingTables.Operator

variable {operators : List Operator} {o : Operator}

theorem rank_eq (o : Operator) : o.rank =
    if o.rightType = some "int" then 1 else if o.rightType = some dynamicType then 2 else 0 := by
  rw [rank]
  cases o.rightType <;> simp

theorem rank_lt_three (o : Operator) : o.rank < 3 := by
  rw [rank_eq]
  split
  · decide
  · split <;> decide

theorem rank_eq_one_iff : o.rank = 1 ↔ o.rightType = some "int" := by
  rw [rank_eq]
  split
  · simp_all
  · split <;> simp_all

theorem rank_eq_two_iff : o.rank = 2 ↔ o.rightType = some dynamicType := by
  rw [rank_eq]
  split
  · simp_all [dynamicType]
  · split <;> simp_all

theorem rank_eq_zero_iff :
    o.rank = 0 ↔ o.rightType ≠ some "int" ∧ o.rightType ≠ some dynamicType := by
  have h := o.rank_lt_three
  rw [← not_or, ← rank_eq_one_iff, ← rank_eq_two_iff]
  omega

theorem rank_trans (a b c : Operator) (hab : decide (a.rank ≤ b.rank) = true)
    (hbc : decide (b.rank ≤ c.rank) = true) : decide (a.rank ≤ c.rank) = true := by
  simp only [decide_eq_true_eq] at hab hbc ⊢
  exact Nat.le_trans hab hbc

theorem rank_total (a b : Operator) : decide (a.rank ≤ b.rank) || decide (b.rank ≤ a.rank) := by
  simpa using Nat.le_total a.rank b.rank

theorem pairwise_ranked (operators : List Operator) :
    (ranked operators).Pairwise fun a b => a.rank ≤ b.rank := by
  simpa [ranked] using List.pairwise_mergeSort rank_trans rank_total operators

/-- Within one rank the order of declaration is kept. -/
theorem filter_ranked (operators : List Operator) (r : Nat) :
    (ranked operators).filter (·.rank = r) = operators.filter (·.rank = r) := by
  -- The group is in order by itself, so sorting keeps it as a sublist and adds nothing to it.
  have hgroup : (operators.filter (·.rank = r)).Pairwise fun a b => decide (a.rank ≤ b.rank) :=
    List.pairwise_of_forall_mem_list fun a ha b hb => by simp_all
  have hsub : (operators.filter (·.rank = r)).Sublist (ranked operators) :=
    List.sublist_mergeSort rank_trans rank_total hgroup List.filter_sublist
  have hin := hsub.filter (·.rank = r)
  simp only [List.filter_filter, Bool.and_self] at hin
  exact (hin.eq_of_length ((ranked_perm operators).filter _).length_eq.symm).symm

/-- What is in order by rank is made of the three groups. -/
theorem eq_groups_of_pairwise (h : operators.Pairwise fun a b => a.rank ≤ b.rank) :
    operators = [0, 1, 2].flatMap fun rank => operators.filter (·.rank = rank) := by
  induction operators with
  | nil => rfl
  | cons o rest ih =>
    obtain ⟨hle, hrest⟩ := List.pairwise_cons.mp h
    -- Nothing behind `o` belongs to a group that comes before the group of `o`.
    have hempty (r : Nat) (hr : r < o.rank) : rest.filter (·.rank = r) = [] := by
      rw [List.filter_eq_nil_iff]
      intro a ha
      have := hle a ha
      simp only [decide_eq_true_eq]
      omega
    have hthree := o.rank_lt_three
    have hih := ih hrest
    simp only [List.flatMap_cons, List.flatMap_nil, List.append_nil, List.filter_cons,
      decide_eq_true_eq] at hih ⊢
    obtain hr | hr | hr : o.rank = 0 ∨ o.rank = 1 ∨ o.rank = 2 := by omega
    · simpa [hr] using hih
    · rw [hempty 0 (by omega)] at hih ⊢
      simpa [hr] using hih
    · rw [hempty 0 (by omega), hempty 1 (by omega)] at hih ⊢
      simpa [hr] using hih

/-- The integer overloads stand behind those of other definite types, and the dynamic ones last. -/
theorem ranked_eq_groups (operators : List Operator) :
    ranked operators = [0, 1, 2].flatMap fun rank => operators.filter (·.rank = rank) := by
  rw [eq_groups_of_pairwise (pairwise_ranked operators)]
  simp only [filter_ranked]

end BindingTables.Operator

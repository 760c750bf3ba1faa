import FilterQuery.Proofs.Rows.Truth

/-!
# Combined constraints

Constraints are combined with what has no effect left out, a single one unwrapped and a conjunction
on the left extended. The trees differ, their truth and their values do not.

* `Truth.and_assoc`, `Truth.any_eq_holds_of_mem`: laws of three-valued logic;
* **`truth_or`**, **`truth_andThen`**, `truth_foldl_andThen`: the truth of combinations;
* `params_and`, `params_andThen`, `params_foldl_andThen`: the values that they bind;
* **`combined_truth`**: all ways to combine constraints.
-/

namespace FilterQuery.Sql

namespace Truth

theorem and_assoc (t u w : Truth) : (t.and u).and w = t.and (u.and w) := by
  cases t <;> cases u <;> cases w <;> rfl

theorem all_append (ts us : List Truth) : all (ts ++ us) = (all ts).and (all us) := by
  induction ts with
  | nil => rfl
  | cons t ts ih => rw [List.cons_append, all, all, ih, and_assoc]

theorem any_eq_holds_of_mem {ts : List Truth} (h : holds ∈ ts) : any ts = holds := by
  induction ts with
  | nil => cases h
  | cons t ts ih =>
    rcases List.mem_cons.1 h with rfl | h
    · rfl
    · rw [any, ih h, or_holds]

end Truth

namespace Constraint

variable {v : Operand → Test → Truth}

/-! ## Truth -/

theorem truthAny_eq (cs : List Constraint) : truthAny v cs = .any (cs.map (truth v)) := by
  induction cs with
  | nil => rfl
  | cons c cs ih => rw [truthAny, ih]; rfl

/-- **A choice has the truth of the disjunction**, also if it is left out because one of its
constraints is always true. No choice at all is no constraint. -/
theorem truth_or (cs : List Constraint) :
    (Constraint.or cs).truth v = if cs.isEmpty then .holds else .any (cs.map (truth v)) := by
  unfold Constraint.or
  cases h : cs.any isAlways with
  | true =>
    obtain ⟨c, hc, halways⟩ := List.any_eq_true.1 h
    have hmem : Truth.holds ∈ cs.map (truth v) :=
      List.mem_map.2 ⟨c, hc, truth_eq_holds_of_isAlways halways⟩
    have hne : cs.isEmpty = false := List.isEmpty_eq_false_iff.2 (List.ne_nil_of_mem hc)
    rw [Truth.any_eq_holds_of_mem hmem, hne]
    rfl
  | false =>
    rcases cs with _ | ⟨c, _ | ⟨d, cs⟩⟩
    · rfl
    · exact (Truth.or_fails _).symm
    · exact truthAny_eq _

/-- **Both of two constraints hold**, whichever form their conjunction has. -/
theorem truth_andThen (c d : Constraint) :
    (c.andThen d).truth v = (c.truth v).and (d.truth v) := by
  unfold andThen
  split
  · rfl
  · exact (Truth.and_holds _).symm
  · rename_i cs d _
    rw [truth, truthAll_eq, List.map_append, Truth.all_append, ← truthAll_eq, List.map_cons,
      List.map_nil, Truth.all, Truth.all, Truth.and_holds]
    rfl
  · rw [truth, truthAll, truthAll, truthAll, Truth.and_holds]

theorem truth_foldl_andThen (c : Constraint) (cs : List Constraint) :
    (cs.foldl andThen c).truth v = (c.truth v).and (.all (cs.map (truth v))) := by
  induction cs generalizing c with
  | nil => exact (Truth.and_holds _).symm
  | cons d cs ih => rw [List.foldl_cons, ih, truth_andThen, Truth.and_assoc]; rfl

/-! ## Values -/

theorem paramsOf_eq (cs : List Constraint) : paramsOf cs = cs.flatMap params := by
  induction cs with
  | nil => rfl
  | cons c cs ih => rw [paramsOf, ih, List.flatMap_cons]

theorem params_and (cs : List Constraint) : (Constraint.and cs).params = cs.flatMap params :=
  flatMap_and rfl paramsOf_eq cs

theorem params_andThen (c d : Constraint) : (c.andThen d).params = c.params ++ d.params := by
  unfold andThen
  split
  · rfl
  · exact (List.append_nil _).symm
  · rw [params, params, paramsOf_eq, paramsOf_eq, List.flatMap_append, List.flatMap_singleton]
  · rw [params, paramsOf, paramsOf, paramsOf, List.append_nil]

theorem params_foldl_andThen (c : Constraint) (cs : List Constraint) :
    (cs.foldl andThen c).params = c.params ++ cs.flatMap params := by
  induction cs generalizing c with
  | nil => exact (List.append_nil _).symm
  | cons d cs ih =>
    rw [List.foldl_cons, ih, params_andThen, List.append_assoc, List.flatMap_cons]

/-- **Combinations mean what they say**, for trees of any shape and whatever is true of their
tests: conjunction, disjunction (no constraint if there is nothing to choose from) and negation, and
the conjunction of two. Constraints that are added one by one to no constraint have the truth of
their conjunction and bind the same values in the same order. -/
theorem combined_truth (v : Operand → Test → Truth) (cs : List Constraint) (c d : Constraint) :
    (Constraint.and cs).truth v = .all (cs.map (truth v)) ∧
    (Constraint.or cs).truth v = (if cs.isEmpty then .holds else .any (cs.map (truth v))) ∧
    (neg c).truth v = (c.truth v).not ∧
    (c.andThen d).truth v = (c.truth v).and (d.truth v) ∧
    (cs.foldl andThen always).truth v = (Constraint.and cs).truth v ∧
    (cs.foldl andThen always).params = (Constraint.and cs).params := by
  refine ⟨truth_and cs, truth_or cs, rfl, truth_andThen c d, ?_, ?_⟩
  · rw [truth_foldl_andThen, truth_and]
    rfl
  · rw [params_foldl_andThen, params_and]
    rfl

end Constraint

end FilterQuery.Sql

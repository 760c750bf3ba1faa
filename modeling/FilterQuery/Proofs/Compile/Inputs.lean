import FilterQuery.Proofs.Compile.Fields

/-!
# What operators read and what predicates bind

Each operator reads its input in a form of its own, and the values that it reads are bound.

* `Value.isScalar`: a single value that is not null; `Input.items`: the values of a list;
* `Range.exists_family`, `Range.hasDate_iff`: the ends of a range;
* `Operation.bound_spec`, `Operation.ends_spec` and others: what operators read of an input;
* `Clause.params_constraint`: the values that the constraint of a clause binds;
* `Operation.isScalar_of_clause`, `Operation.values_of_isMembership`: operators that take no list of
  members read scalars only, and those that do read whatever is in the list;
* **`build_params_scalar_iff`**: when a predicate binds scalars only.
-/

namespace FilterQuery

open Sql

theorem exceptBind_eq_ok_iff {ε α β : Type} {x : Except ε α} {f : α → Except ε β} {b : β} :
    (x >>= f) = .ok b ↔ ∃ a, x = .ok a ∧ f a = .ok b := by
  cases x <;> simp [bind, Except.bind]

theorem exceptBind_eq_error_iff {ε α β : Type} {x : Except ε α} {f : α → Except ε β} {e : ε} :
    (x >>= f) = .error e ↔ x = .error e ∨ ∃ a, x = .ok a ∧ f a = .error e := by
  cases x <;> simp [bind, Except.bind]

theorem exceptMap_eq_ok_iff {ε α β : Type} {x : Except ε α} {f : α → β} {b : β} :
    (do return f (← x)) = .ok b ↔ ∃ a, x = .ok a ∧ f a = b := by
  cases x <;> simp [bind, Except.bind, pure, Except.pure]

theorem mapError_eq_ok_iff {ε ε' α : Type} {x : Except ε α} {f : ε → ε'} {a : α} :
    x.mapError f = .ok a ↔ x = .ok a := by
  cases x <;> simp [Except.mapError]

/-! ## Scalars and lists -/

/-- A single value that is not null. -/
def Value.isScalar : Value → Bool
  | null | list _ => false
  | _ => true

theorem Value.isNull_of_isScalar {v : Value} (h : v.isScalar = true) : v.isNull = false := by
  cases v with
  | null => cases h
  | _ => rfl

theorem Value.isScalar_of_isOrdered {v : Value} (h : v.isOrdered = true) : v.isScalar = true := by
  cases v with
  | null | list => cases h
  | _ => rfl

/-- The values of an input that is a list. -/
def Input.items : Input → List Value
  | list vs => vs
  | scalar (.list vs) => vs
  | _ => []

/-- The operator takes a list of members. -/
def Operation.isMembership : Operation → Bool
  | isIn | notIn => true
  | _ => false

/-! ## Ranges -/

theorem comparable_iff {v w : Value} :
    comparable v w = true ↔ ∃ family, v.family? = some family ∧ w.family? = some family := by
  rw [comparable, Bool.and_eq_true, beq_iff_eq, Value.isOrdered, Option.isSome_iff_exists]
  constructor
  · rintro ⟨⟨family, hv⟩, hw⟩
    exact ⟨family, hv, hw ▸ hv⟩
  · rintro ⟨family, hv, hw⟩
    exact ⟨⟨family, hv⟩, hv.trans hw.symm⟩

theorem Value.kind_eq_date_iff {v : Value} : v.kind = "date" ↔ ∃ d, v = .date d := by
  cases v <;> simp [Value.kind]

namespace Range

theorem exists_family (r : Range) :
    ∃ family, r.start.family? = some family ∧ r.stop.family? = some family :=
  comparable_iff.1 r.ends_comparable

theorem isOrdered (r : Range) : r.start.isOrdered = true ∧ r.stop.isOrdered = true := by
  obtain ⟨family, hstart, hstop⟩ := r.exists_family
  exact ⟨Option.isSome_iff_exists.2 ⟨family, hstart⟩, Option.isSome_iff_exists.2 ⟨family, hstop⟩⟩

theorem hasDate_iff (r : Range) :
    r.hasDate = true ↔ (∃ d, r.start = .date d) ∨ ∃ d, r.stop = .date d := by
  unfold hasDate
  split <;> simp_all

theorem ne_date {r : Range} (h : r.hasDate = false) :
    (∀ d, r.start ≠ .date d) ∧ ∀ d, r.stop ≠ .date d := by
  rw [← Bool.not_eq_true, r.hasDate_iff, not_or, not_exists, not_exists] at h
  exact h

theorem isTemporal_and_hasDate (r : Range) : (r.isTemporal && r.hasDate) = r.hasDate := by
  obtain ⟨family, hstart, hstop⟩ := r.exists_family
  cases h : r.hasDate with
  | false => exact Bool.and_false _
  | true =>
    have hfamily : family = .temporal := by
      rcases r.hasDate_iff.1 h with ⟨d, hd⟩ | ⟨d, hd⟩
      · exact (Option.some.inj (hstart ▸ hd ▸ rfl)).symm
      · exact (Option.some.inj (hstop ▸ hd ▸ rfl)).symm
    rw [Bool.and_true, isTemporal, hstart, hfamily]
    rfl

end Range

/-! ## What operators read -/

namespace Operation

variable {op : Operation} {ctx : PredicateContext} {a : Input}

theorem isScalar_scalar {v : Value} (h : op.scalar a = .ok v) : v.isScalar = true := by
  unfold scalar at h
  split at h
  · cases h
  · cases h
  · cases h
    cases v <;> simp_all [Value.isScalar]
  · cases h

theorem bound_spec {view : View} {v : Value} (h : op.bound a = .ok (view, v)) : v.isScalar = true ∧
    ∃ w, a = .scalar w ∧ view = if w.kind = "date" then .instant else .plain := by
  unfold bound at h
  split at h
  · cases h
    exact ⟨rfl, _, rfl, rfl⟩
  · rename_i w hdate
    split at h
    · rename_i hordered
      cases h
      refine ⟨Value.isScalar_of_isOrdered hordered, v, rfl, ?_⟩
      cases v with
      | date d => exact absurd rfl (hdate d)
      | _ => rfl
    · cases h
  · cases h

theorem members_spec {vs : List Value} (h : op.members ctx a = .ok vs) :
    a = .list vs ∨ a = .scalar (.list vs) := by
  unfold members members.limited at h
  split at h
  · split at h
    · cases h
    · cases h
      exact .inl rfl
  · split at h
    · cases h
    · cases h
      exact .inr rfl
  · cases h

theorem ofList_spec {vs : List Value} {r : Range} (h : Range.ofList vs = .ok r) :
    vs = [r.start, r.stop] := by
  unfold Range.ofList Range.of at h
  split at h
  · split at h
    · cases h
      rfl
    · cases h
  · cases h

theorem range_spec {r : Range} (h : op.range a = .ok r) :
    a = .range r ∨ a = .list [r.start, r.stop] ∨ a = .scalar (.list [r.start, r.stop]) := by
  unfold range at h
  split at h
  · cases h
    exact .inl rfl
  · rw [mapError_eq_ok_iff] at h
    rw [ofList_spec h]
    exact .inr (.inl rfl)
  · rw [mapError_eq_ok_iff] at h
    rw [ofList_spec h]
    exact .inr (.inr rfl)
  · cases h

theorem isScalar_startOfDate {v : Value} (h : v.isScalar = true) :
    (startOfDate v).isScalar = true := by
  cases v with
  | null | list => cases h
  | _ => rfl

theorem isScalar_ends (r : Range) : r.start.isScalar = true ∧ r.stop.isScalar = true :=
  ⟨Value.isScalar_of_isOrdered r.isOrdered.1, Value.isScalar_of_isOrdered r.isOrdered.2⟩

theorem ends_spec {view : View} {start stop : Value} (h : op.ends a = .ok (view, start, stop)) :
    start.isScalar = true ∧ stop.isScalar = true ∧ ∃ r, op.range a = .ok r ∧
      view = if r.isTemporal && r.hasDate then .instant else .plain := by
  unfold ends at h
  obtain ⟨r, hr, h⟩ := exceptBind_eq_ok_iff.1 h
  obtain ⟨hstart, hstop⟩ := isScalar_ends r
  split at h
  · rename_i hdate
    cases h
    exact ⟨isScalar_startOfDate hstart, isScalar_startOfDate hstop, r, hr, by rw [hdate]; rfl⟩
  · rename_i hdate
    cases h
    exact ⟨hstart, hstop, r, hr, (if_neg hdate).symm⟩

theorem members_eq {vs : List Value} (h : op.members ctx a = .ok vs) : vs = a.items := by
  rcases members_spec h with rfl | rfl <;> rfl

theorem flag_spec {x : Bool} (h : op.flag a = .ok x) : a = .scalar (.bool x) := by
  unfold flag at h
  split at h
  · cases h
    rfl
  · cases h

end Operation

/-! ## What predicates bind -/

theorem Sql.Constraint.mem_values_of_mem_testParams {t : Test} {v : Value}
    (h : v ∈ testParams t) : v ∈ t.values := by
  unfold testParams at h
  split at h
  · cases h
  · cases h
  · exact h

theorem Clause.params_constraint (c : Clause) (a : Operand) :
    (c.constraint a).params = c.shape.tests.flatMap Constraint.testParams := by
  obtain ⟨view, shape⟩ := c
  cases shape with
  | always => rfl
  | passes t | fails t => exact (List.append_nil _).symm
  | both t u | either t u => rfl

namespace Operation

variable {op : Operation} {ctx : PredicateContext} {a : Input} {x : Clause}

/-- **An operator that takes no list of members reads scalars only.** -/
theorem isScalar_of_clause (hop : op.isMembership = false) (h : op.clause ctx a = .ok x) :
    ∀ t ∈ x.shape.tests, ∀ v ∈ t.values, v.isScalar = true := by
  cases op with
  | equal | notEqual =>
    obtain ⟨v, hv, rfl⟩ := exceptMap_eq_ok_iff.1 h
    simpa [Shape.tests, Test.values] using isScalar_scalar hv
  | like | notLike | startsWith | endsWith | sizeEq | sizeGt | sizeLt =>
    obtain ⟨v, -, rfl⟩ := exceptMap_eq_ok_iff.1 h
    simp [Shape.tests, Test.values, Value.isScalar]
  | greaterThan | greaterOrEqual | lessThan | lessOrEqual =>
    obtain ⟨⟨view, v⟩, hv, rfl⟩ := exceptMap_eq_ok_iff.1 h
    simpa [Shape.tests, Test.values] using (bound_spec hv).1
  | isIn | notIn => cases hop
  | between | notBetween | betweenExclusive | outsideRange =>
    obtain ⟨⟨view, start, stop⟩, hv, rfl⟩ := exceptMap_eq_ok_iff.1 h
    obtain ⟨hstart, hstop, -⟩ := ends_spec hv
    simp [Shape.tests, Test.values, hstart, hstop]
  | onDate =>
    obtain ⟨day, -, hx⟩ := exceptBind_eq_ok_iff.1 h
    split at hx
    · cases hx
    · cases hx
      simp [Shape.tests, Test.values, Value.isScalar]
  | inLastDays | inNextDays =>
    obtain ⟨days, -, hx⟩ := exceptBind_eq_ok_iff.1 h
    obtain ⟨instant, -, rfl⟩ := exceptMap_eq_ok_iff.1 hx
    simp [Shape.tests, Test.values, Value.isScalar]
  | isTrue | isFalse =>
    cases h
    simp [Shape.tests, Test.values, Value.isScalar]
  | isNull | isNotNull =>
    obtain ⟨set, -, hx⟩ := exceptBind_eq_ok_iff.1 h
    split at hx <;> cases hx <;> simp [Shape.tests, Test.values]

theorem values_of_isMembership (hop : op.isMembership = true) (h : op.clause ctx a = .ok x) :
    x.shape.tests = [.isIn a.items] := by
  cases op with
  | isIn | notIn =>
    obtain ⟨vs, hv, rfl⟩ := exceptMap_eq_ok_iff.1 h
    rw [members_eq hv]
    rfl
  | _ => cases hop

end Operation

/-- **When a predicate binds scalars only.** An operator that takes no list of members binds no null
and no list. One that does binds the values of its list as they are, so they must be scalars. -/
theorem build_params_scalar_iff {ctx : PredicateContext} {op : Operation} {a : Operand}
    {input : Input} {s s' : Criteria} {p : Constraint}
    (h : op.build Criteria.backend ctx a input s = .ok p s') :
    (op.isMembership = true → p.params = input.items) ∧
    ((∀ v ∈ p.params, v.isScalar = true) ↔
      (op.isMembership = true → ∀ v ∈ input.items, v.isScalar = true)) := by
  obtain ⟨-, -, clause, hclause, rfl⟩ := Operation.build_backend_eq_ok_iff.1 h
  rw [Clause.params_constraint]
  cases hop : op.isMembership with
  | true =>
    have hitems : clause.shape.tests.flatMap Constraint.testParams = input.items := by
      rw [Operation.values_of_isMembership hop hclause]
      exact List.append_nil _
    rw [hitems]
    exact ⟨fun _ => rfl, fun hv _ => hv, fun hv => hv rfl⟩
  | false =>
    have hscalar : ∀ v ∈ clause.shape.tests.flatMap Constraint.testParams, v.isScalar = true := by
      intro v hv
      obtain ⟨t, ht, hv⟩ := List.mem_flatMap.1 hv
      exact Operation.isScalar_of_clause hop hclause t ht v
        (Constraint.mem_values_of_mem_testParams hv)
    have hno : ¬ false = true := Bool.false_ne_true
    exact ⟨fun hn => absurd hn hno, fun _ hn => absurd hn hno, fun _ => hscalar⟩

/-- A null among the members is bound like the others. -/
theorem build_params_scalar_iff_null : ∃ p,
    Operation.notIn.build Criteria.backend (Compiler.atEpoch .left).context
      (.column "t0" "status") (.list [.text "A", .null]) people = .ok p people ∧
    p.params = [.text "A", .null] ∧ ¬ ∀ v ∈ p.params, v.isScalar = true := by
  have h : Operation.notIn.build Criteria.backend (Compiler.atEpoch .left).context
      (.column "t0" "status") (.list [.text "A", .null]) people = .ok _ people := rfl
  obtain ⟨hparams, hiff⟩ := build_params_scalar_iff h
  refine ⟨_, h, hparams rfl, fun hscalar => ?_⟩
  have hnull : Value.null.isScalar = true :=
    hiff.1 hscalar rfl .null (List.mem_cons_of_mem _ List.mem_cons_self)
  cases hnull

end FilterQuery

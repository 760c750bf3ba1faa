import FilterQuery.Proofs.Compile.Acceptance
import FilterQuery.Proofs.Rows.Truth

/-!
# Compiled constraints are well typed

Each operator looks at its attribute in a view of its own, and compares that with values of the
kinds that go with the view. Dates stay dates only where they are compared for equality.

* `Constraint.tests`: what a constraint tests, and of which operand;
* `Test.Fits`: a test that goes with its operand; `Test.Typed`: the rules by which operators make
  tests, with **`Test.Typed.fits`**;
* **`Operation.typed_of_clause`**: what an operator makes of an input;
* `Operation.rangeShape`, **`Operation.clause_range_eq_ok_iff`**, `Operation.boundsFit_of_clause`:
  what operators make of a range;
* `Built.forall₂_clause`: the clauses of fields that are compiled one after the other;
* **`compile_wellTyped`**: the tests of a compiled constraint, and the bounds of its ranges.
-/

namespace FilterQuery

open Sql

/-! ## Tests of a constraint -/

namespace Sql.Constraint

mutual

/-- The operands that are tested, each with its test, in order. -/
def tests : Constraint → List (Operand × Test)
  | always => []
  | test a t => [(a, t)]
  | all cs => testsOf cs
  | any cs => testsOf cs
  | neg c => c.tests

/-- The tests of constraints in a row. -/
def testsOf : List Constraint → List (Operand × Test)
  | [] => []
  | c :: cs => c.tests ++ testsOf cs

end

theorem testsOf_eq (cs : List Constraint) : testsOf cs = cs.flatMap tests := by
  induction cs with
  | nil => rfl
  | cons c cs ih => rw [testsOf, ih, List.flatMap_cons]

theorem tests_and (cs : List Constraint) : (Constraint.and cs).tests = cs.flatMap tests :=
  flatMap_and rfl testsOf_eq cs

end Sql.Constraint

theorem Clause.tests_constraint (a : Operand) (x : Clause) :
    (x.constraint a).tests = x.shape.tests.map fun t => (x.view.operand a, t) := by
  obtain ⟨view, shape⟩ := x
  cases shape <;> rfl

/-! ## Tests that go with their operands -/

mutual

/-- The value is a date, or a list with a date in it. -/
def Value.holdsDate : Value → Bool
  | date _ => true
  | list vs => anyHoldsDate vs
  | _ => false

/-- One of the values is a date, or a list with a date in it. -/
def Value.anyHoldsDate : List Value → Bool
  | [] => false
  | v :: vs => v.holdsDate || anyHoldsDate vs

end

namespace Test

/-- The test asks how the operand lies in an order. -/
def isOrder : Test → Bool
  | compare .lt _ | compare .le _ | compare .gt _ | compare .ge _ => true
  | between _ _ => true
  | _ => false

/-- The test asks whether the operand is equal to a value. -/
def isEquality : Test → Bool
  | compare .eq _ | compare .ne _ => true
  | isIn _ => true
  | _ => false

/-- A test goes with the operand that it is about. -/
structure Fits (a : Operand) (t : Test) : Prop where
  /-- Functions are not nested. -/
  flat : ∃ q n, a = .column q n ∨ a = .lower (.column q n) ∨ a = .instant (.column q n) ∨
    a = .size (.column q n)
  /-- What is read as an instant has a place among instants. -/
  instant : ∀ b, a = .instant b → t.isOrder = true ∧ ∀ v ∈ t.values, ∃ u, v = .instant u
  /-- Patterns are for texts in lower case, and these for patterns. -/
  lower : (∃ b, a = .lower b) ↔ ∃ pattern, t = .like pattern
  /-- A number of items is compared with a number of items. -/
  size : ∀ b, a = .size b → ∃ c n, t = .compare c (.int n) ∧ c ∈ [.eq, .gt, .lt] ∧ 0 ≤ n.toInt
  /-- Dates are compared for equality only. -/
  dates : ∀ v ∈ t.values, v.holdsDate = true → t.isEquality = true
  /-- The ends of a range are of one family. -/
  ends : ∀ low high, t = .between low high →
    ∃ family, low.family? = some family ∧ high.family? = some family

/-- The tests that operators make of an attribute, each with the view of the attribute. -/
inductive Typed (a : Operand) : Operand → Test → Prop
  | equality {c : Comparison} {v : Value} (hc : c = .eq ∨ c = .ne) : Typed a a (.compare c v)
  | pattern (s : String) : Typed a (.lower a) (.like s)
  | order {c : Comparison} {v : Value} (hc : (compare c v).isOrder = true)
      (hv : v.holdsDate = false) : Typed a a (.compare c v)
  | orderInstant {c : Comparison} {t : Instant} (hc : (compare c (.instant t)).isOrder = true) :
      Typed a (.instant a) (.compare c (.instant t))
  | members (vs : List Value) : Typed a a (.isIn vs)
  | range {low high : Value} {family : Family} (hlow : low.family? = some family)
      (hhigh : high.family? = some family) (hdate : low.holdsDate = false)
      (hdate' : high.holdsDate = false) : Typed a a (.between low high)
  | rangeInstant (t u : Instant) : Typed a (.instant a) (.between (.instant t) (.instant u))
  | count {c : Comparison} {n : Int64} (hc : c ∈ [.eq, .gt, .lt]) (hn : 0 ≤ n.toInt) :
      Typed a (.size a) (.compare c (.int n))
  | null : Typed a a .isNull
  | notNull : Typed a a .isNotNull

section

variable {q n : String} {t : Test}

theorem fits_column (hlike : ∀ s, t ≠ .like s)
    (hdates : ∀ v ∈ t.values, v.holdsDate = true → t.isEquality = true)
    (hends : ∀ low high, t = .between low high →
      ∃ family, low.family? = some family ∧ high.family? = some family) :
    t.Fits (.column q n) where
  flat := ⟨q, n, .inl rfl⟩
  instant := nofun
  lower := ⟨nofun, fun ⟨s, h⟩ => absurd h (hlike s)⟩
  size := nofun
  dates := hdates
  ends := hends

theorem fits_instant (horder : t.isOrder = true) (hvalues : ∀ v ∈ t.values, ∃ u, v = .instant u) :
    t.Fits (.instant (.column q n)) where
  flat := ⟨q, n, .inr (.inr (.inl rfl))⟩
  instant _ _ := ⟨horder, hvalues⟩
  lower := by
    refine ⟨nofun, ?_⟩
    rintro ⟨s, rfl⟩
    cases horder
  size := nofun
  dates v hv hdate := by
    obtain ⟨u, rfl⟩ := hvalues v hv
    cases hdate
  ends := by
    rintro low high rfl
    obtain ⟨t, rfl⟩ := hvalues low List.mem_cons_self
    obtain ⟨u, rfl⟩ := hvalues high (List.mem_cons_of_mem _ List.mem_cons_self)
    exact ⟨.temporal, rfl, rfl⟩

theorem fits_lower (s : String) : (like s).Fits (.lower (.column q n)) where
  flat := ⟨q, n, .inr (.inl rfl)⟩
  instant := nofun
  lower := iff_of_true ⟨_, rfl⟩ ⟨s, rfl⟩
  size := nofun
  dates v hv hdate := by
    obtain rfl := List.mem_singleton.1 hv
    cases hdate
  ends := nofun

theorem fits_size {c : Comparison} {k : Int64} (hc : c ∈ [.eq, .gt, .lt]) (hk : 0 ≤ k.toInt) :
    (compare c (.int k)).Fits (.size (.column q n)) where
  flat := ⟨q, n, .inr (.inr (.inr rfl))⟩
  instant := nofun
  lower := iff_of_false nofun nofun
  size _ _ := ⟨c, k, rfl, hc, hk⟩
  dates v hv hdate := by
    obtain rfl := List.mem_singleton.1 hv
    cases hdate
  ends := nofun

end

/-- **The tests that operators make of a column go with their operands.** -/
theorem Typed.fits {q n : String} {a : Operand} {t : Test} (h : Typed (.column q n) a t) :
    t.Fits a := by
  cases h with
  | @equality c v hc =>
    have heq : (compare c v).isEquality = true := by
      rcases hc with rfl | rfl <;> rfl
    exact fits_column (by simp) (fun _ _ _ => heq) (by simp)
  | pattern s => exact fits_lower s
  | order hc hv => exact fits_column (by simp) (by simp [values, hv]) (by simp)
  | orderInstant hc => exact fits_instant hc (by simp [values])
  | members vs => exact fits_column (by simp) (fun _ _ _ => rfl) (by simp)
  | range hlow hhigh hdate hdate' =>
    refine fits_column (by simp) (by simp [values, hdate, hdate']) ?_
    rintro _ _ ⟨⟩
    exact ⟨_, hlow, hhigh⟩
  | rangeInstant t u => exact fits_instant rfl (by simp [values])
  | count hc hn => exact fits_size hc hn
  | null | notNull => exact fits_column (by simp) (by simp [values]) (by simp)

end Test

/-! ## What operators make of inputs -/

theorem Value.holdsDate_eq_false {v : Value} {family : Family} (h : v.family? = some family)
    (hdate : ∀ d, v ≠ .date d) : v.holdsDate = false := by
  cases v with
  | date d => exact absurd rfl (hdate d)
  | list => cases h
  | _ => rfl

theorem Value.exists_startOfDate {v : Value} (h : v.family? = some .temporal) :
    ∃ t, Operation.startOfDate v = .instant t := by
  cases v with
  | date d => exact ⟨_, rfl⟩
  | instant t => exact ⟨t, rfl⟩
  | _ => cases h

namespace Operation

theorem family?_startOfDate (v : Value) : (startOfDate v).family? = v.family? := by
  cases v <;> rfl

/-- **The bounds of a range** go with the view of the attribute: they are instants for an attribute
that is read as one, and otherwise none of them is a date. -/
theorem bounds_cases (r : Range) :
    (r.hasDate = true ∧ viewOf r = .instant ∧
      ∃ t u, startOfDate r.start = .instant t ∧ startOfDate r.stop = .instant u) ∨
    (r.hasDate = false ∧ viewOf r = .plain ∧
      (startOfDate r.start).holdsDate = false ∧ (startOfDate r.stop).holdsDate = false) := by
  obtain ⟨family, hstart, hstop⟩ := r.exists_family
  cases h : r.hasDate with
  | true =>
    have htemporal : r.isTemporal = true := by
      have hboth := r.isTemporal_and_hasDate
      rwa [h, Bool.and_true] at hboth
    rw [Range.isTemporal, hstart, beq_iff_eq, Option.some.injEq] at htemporal
    subst htemporal
    obtain ⟨t, ht⟩ := Value.exists_startOfDate hstart
    obtain ⟨u, hu⟩ := Value.exists_startOfDate hstop
    exact .inl ⟨rfl, if_pos h, t, u, ht, hu⟩
  | false =>
    obtain ⟨hstart', hstop'⟩ := Range.ne_date h
    rw [startOfDate_eq_self hstart', startOfDate_eq_self hstop']
    exact .inr ⟨rfl, by rw [viewOf, h]; rfl, Value.holdsDate_eq_false hstart hstart',
      Value.holdsDate_eq_false hstop hstop'⟩

theorem bounds_family (r : Range) : ∃ family, (startOfDate r.start).family? = some family ∧
    (startOfDate r.stop).family? = some family := by
  rw [family?_startOfDate, family?_startOfDate]
  exact r.exists_family

variable {ctx : PredicateContext} {op : Operation} {input : Input} {x : Clause} {a : Operand}

theorem typed_ordering {c : Comparison} (hc : ∀ v, (Test.compare c v).isOrder = true)
    (h : op.ordering c input = .ok x) :
    ∀ t ∈ x.shape.tests, Test.Typed a (x.view.operand a) t := by
  obtain ⟨⟨view, v⟩, hv, rfl⟩ := exceptMap_eq_ok_iff.1 h
  obtain ⟨w, -, hordered, rfl, rfl⟩ := bound_eq_ok_iff.1 hv
  rintro t ht
  obtain rfl := List.mem_singleton.1 ht
  obtain ⟨family, hfamily⟩ := Option.isSome_iff_exists.1 hordered
  cases w with
  | date d => exact .orderInstant (hc _)
  | null | bool | json | list => cases hfamily
  | int | float | text | instant => exact .order (hc _) rfl

theorem typed_ranging {shape : Value → Value → Shape}
    (hplain : ∀ low high, low.holdsDate = false → high.holdsDate = false →
      (∃ family, low.family? = some family ∧ high.family? = some family) →
      ∀ t ∈ (shape low high).tests, Test.Typed a a t)
    (hinstant : ∀ t u, ∀ test ∈ (shape (.instant t) (.instant u)).tests,
      Test.Typed a (.instant a) test)
    (h : op.ranging shape input = .ok x) :
    ∀ t ∈ x.shape.tests, Test.Typed a (x.view.operand a) t := by
  obtain ⟨r, -, rfl⟩ := ranging_eq_ok_iff.1 h
  rcases bounds_cases r with ⟨-, hview, t, u, ht, hu⟩ | ⟨-, hview, hstart, hstop⟩
  · rw [hview, ht, hu]
    exact hinstant t u
  · rw [hview]
    exact hplain _ _ hstart hstop (bounds_family r)

/-- **The tests that an operator makes of an attribute follow the rules.** -/
theorem typed_of_clause (h : op.clause ctx input = .ok x) :
    ∀ t ∈ x.shape.tests, Test.Typed a (x.view.operand (op.look a)) t := by
  cases op with
  | equal =>
    obtain ⟨v, -, rfl⟩ := exceptMap_eq_ok_iff.1 h
    simpa [Shape.tests] using .equality (.inl rfl)
  | notEqual =>
    obtain ⟨v, -, rfl⟩ := exceptMap_eq_ok_iff.1 h
    simpa [Shape.tests] using .equality (.inr rfl)
  | like | notLike | startsWith | endsWith =>
    obtain ⟨s, -, rfl⟩ := exceptMap_eq_ok_iff.1 h
    simpa [Shape.tests] using .pattern _
  | greaterThan | greaterOrEqual | lessThan | lessOrEqual =>
    exact typed_ordering (fun _ => rfl) h
  | isIn | notIn =>
    obtain ⟨vs, -, rfl⟩ := exceptMap_eq_ok_iff.1 h
    simpa [Shape.tests] using .members vs
  | between | notBetween =>
    simp only [clause] at h
    refine typed_ranging ?_ ?_ h
    · rintro low high hlow hhigh ⟨family, hf, hf'⟩
      simpa [Shape.tests] using .range hf hf' hlow hhigh
    · intro t u
      simpa [Shape.tests] using .rangeInstant t u
  | betweenExclusive | outsideRange =>
    simp only [clause] at h
    refine typed_ranging ?_ ?_ h
    · intro low high hlow hhigh _
      simpa [Shape.tests] using ⟨.order rfl hlow, .order rfl hhigh⟩
    · intro t u
      simpa [Shape.tests] using ⟨.orderInstant rfl, .orderInstant rfl⟩
  | onDate =>
    obtain ⟨day, -, hx⟩ := exceptBind_eq_ok_iff.1 h
    split at hx
    · cases hx
    · cases hx
      simpa [Shape.tests] using ⟨.orderInstant rfl, .orderInstant rfl⟩
  | inLastDays | inNextDays =>
    obtain ⟨days, -, hx⟩ := exceptBind_eq_ok_iff.1 h
    obtain ⟨t, -, rfl⟩ := exceptMap_eq_ok_iff.1 hx
    simpa [Shape.tests] using .rangeInstant _ _
  | sizeEq | sizeGt | sizeLt =>
    obtain ⟨n, hn, rfl⟩ := exceptMap_eq_ok_iff.1 h
    simpa [Shape.tests] using .count (by decide) (count_eq_ok_iff.1 hn).2
  | isTrue | isFalse =>
    cases h
    simpa [Shape.tests] using .equality (.inl rfl)
  | isNull =>
    obtain ⟨set, -, hx⟩ := exceptBind_eq_ok_iff.1 h
    split at hx <;> cases hx
    · simpa [Shape.tests] using .null
    · simp [Shape.tests]
  | isNotNull =>
    obtain ⟨set, -, hx⟩ := exceptBind_eq_ok_iff.1 h
    split at hx <;> cases hx
    · simpa [Shape.tests] using .notNull
    · simp [Shape.tests]

/-! ## Ranges -/

/-- The operator takes a range. -/
def isRange : Operation → Bool
  | between | notBetween | betweenExclusive | outsideRange => true
  | _ => false

/-- The tests of an operator that takes a range, with two bounds. -/
def rangeShape (low high : Value) : Operation → Shape
  | between => .passes (.between low high)
  | notBetween => .fails (.between low high)
  | betweenExclusive => .both (.compare .gt low) (.compare .lt high)
  | outsideRange => .either (.compare .lt low) (.compare .gt high)
  | _ => .always

/-- **Operators that take a range read it in the same way**, and differ in their tests only. -/
theorem clause_range_eq_ok_iff (hop : op.isRange = true) : op.clause ctx input = .ok x ↔
    ∃ r, input.Spans r ∧
      x = ⟨viewOf r, op.rangeShape (startOfDate r.start) (startOfDate r.stop)⟩ := by
  have hranging : op.clause ctx input =
      op.ranging (fun low high => op.rangeShape low high) input := by
    cases op with
    | between | notBetween | betweenExclusive | outsideRange => rfl
    | _ => cases hop
  rw [hranging]
  exact ranging_eq_ok_iff

/-- A range is compared with two values of one family, and with two instants if one of its ends is
a date. -/
def BoundsFit (op : Operation) (input : Input) (p : Constraint) : Prop :=
  ∃ (b : Operand) (low high : Value) (family : Family), p = (op.rangeShape low high).constraint b ∧
    low.family? = some family ∧ high.family? = some family ∧
    ∃ r, input.Spans r ∧ ((∃ d, r.start = .date d) ∨ (∃ d, r.stop = .date d) →
      ∃ t u, low = .instant t ∧ high = .instant u)

theorem boundsFit_of_clause (hop : op.isRange = true) (h : op.clause ctx input = .ok x) :
    op.BoundsFit input (x.constraint a) := by
  obtain ⟨r, hr, rfl⟩ := (clause_range_eq_ok_iff hop).1 h
  obtain ⟨family, hlow, hhigh⟩ := bounds_family r
  refine ⟨_, _, _, family, rfl, hlow, hhigh, r, hr, fun hdate => ?_⟩
  rcases bounds_cases r with ⟨-, -, hinstants⟩ | ⟨hnone, -⟩
  · exact hinstants
  · rw [← r.hasDate_iff, hnone] at hdate
    cases hdate

end Operation

/-! ## Compiled constraints -/

section

variable {c : Compiler} {s : Criteria} {fields : List (Declaration × Input)}
  {blocks : List (List Join)} {ps : List Constraint}

theorem Built.forall₂_clause (h : Built c s fields blocks ps) :
    List.Forall₂ (fun f p => ∃ x q, f.1.operation.clause c.context f.2 = .ok x ∧
      p = x.constraint (f.1.operation.look (.column q f.1.leaf))) fields ps := by
  induction h with
  | nil => exact .nil
  | cons _ build _ ih =>
    obtain ⟨-, -, x, hx, rfl⟩ := Operation.build_backend_eq_ok_iff.1 build
    exact .cons ⟨x, _, hx, rfl⟩ ih

theorem Clause.fits_constraint {ctx : PredicateContext} {op : Operation} {input : Input}
    {x : Clause} {q leaf : String} (h : op.clause ctx input = .ok x) :
    ∀ test ∈ (x.constraint (op.look (.column q leaf))).tests, test.2.Fits test.1 := by
  intro test htest
  rw [Clause.tests_constraint, List.mem_map] at htest
  obtain ⟨t, ht, rfl⟩ := htest
  exact (Operation.typed_of_clause h t ht).fits

theorem Built.fits (h : Built c s fields blocks ps) :
    ∀ p ∈ ps, ∀ test ∈ p.tests, test.2.Fits test.1 := by
  induction h with
  | nil => nofun
  | cons _ build _ ih =>
    obtain ⟨-, -, x, hx, rfl⟩ := Operation.build_backend_eq_ok_iff.1 build
    exact List.forall_mem_cons.2 ⟨Clause.fits_constraint hx, ih⟩

end

/-- **Compiled constraints are well typed.** Each test in the tree goes with its operand, and the
field of a range operator gets a constraint with bounds that go with each other. -/
theorem compile_wellTyped {F : Type} (c : Compiler) (t : FilterType F) (object : F)
    (page : PageRequest) {s s' : Criteria} {r : Compiled Constraint}
    (h : c.compile Criteria.backend t object page s = .ok r s') :
    (∀ test ∈ r.constraint.tests, test.2.Fits test.1) ∧
    ∃ ps, r.constraint = .and ps ∧ List.Forall₂
      (fun field p => field.1.operation.isRange = true → field.1.operation.BoundsFit field.2 p)
      (t.declarations.fields.filterMap (Field.held object)) ps := by
  obtain ⟨hk, -⟩ := compile_eq_ok_iff.1 h
  obtain ⟨fields, blocks, ps, hactive, hb, hand, -⟩ := constraint_eq_ok_iff.1 hk
  obtain ⟨-, rfl⟩ := Declarations.active_eq_ok_iff.1 hactive
  refine ⟨?_, ps, hand, hb.forall₂_clause.imp ?_⟩
  · intro test htest
    rw [hand, Constraint.tests_and, List.mem_flatMap] at htest
    obtain ⟨p, hp, htest⟩ := htest
    exact hb.fits p hp test htest
  · rintro field p ⟨x, q, hx, rfl⟩ hop
    exact Operation.boundsFit_of_clause hop hx

/-- A field for each view of an attribute, and a range with a date at its end only. -/
def viewed : FilterType Unit := .holding "Person" [
  (⟨"name", .notLike, ""⟩, .scalar (.text "x")),
  (⟨"born", .outsideRange, ""⟩, .list [.instant ⟨5, 0, by decide, by decide, zero_lt_twoBillion⟩,
    .date ⟨1, by decide, by decide⟩]),
  (⟨"tags", .sizeLt, "account.tags"⟩, .scalar (.int 3)),
  (⟨"joined", .isIn, ""⟩, .list [.date ⟨2, by decide, by decide⟩])]

/-- In the example both bounds of the range are instants. -/
theorem compile_wellTyped_viewed : ∃ r s',
    (Compiler.atEpoch .left).compile Criteria.backend viewed () {}
      (people.withCollection "account.tags") = .ok r s' ∧
    r.constraint.tests.map (fun test => test.1) = [.lower (.column "t0" "name"),
      .instant (.column "t0" "born"), .instant (.column "t0" "born"),
      .size (.column "j1" "tags"), .column "t0" "joined"] ∧
    (∀ test ∈ r.constraint.tests, test.2.Fits test.1) ∧
    ∃ ps, r.constraint = .and ps ∧ List.Forall₂
      (fun field p => field.1.operation.isRange = true → field.1.operation.BoundsFit field.2 p)
      (viewed.declarations.fields.filterMap (Field.held ())) ps := by
  obtain ⟨r, s', h, hoperands⟩ := exists_of_passes
    ((Compiler.atEpoch .left).compile Criteria.backend viewed () {}
      (people.withCollection "account.tags"))
    (fun r _ => r.constraint.tests.map (fun test => test.1) == [.lower (.column "t0" "name"),
      .instant (.column "t0" "born"), .instant (.column "t0" "born"),
      .size (.column "j1" "tags"), .column "t0" "joined"])
    (by decide +kernel)
  exact ⟨r, s', h, beq_iff_eq.1 hoperands, compile_wellTyped _ _ _ _ h⟩

end FilterQuery

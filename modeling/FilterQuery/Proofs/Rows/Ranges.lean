import FilterQuery.Proofs.Compile.Typing
import FilterQuery.Proofs.Rows.Intersection

/-!
# Ranges on rows

Four operators take a range. They read it in the same way, and ask with one test or two whether an
attribute lies within it.

* `ValueOrder`: an order of values; `Engine.Follows`: a database that compares by it;
* **`Engine.Follows.compared_lt`**, `compared_gt`: how comparisons with one value hang together;
* `Range.constraint`, `Operation.build_range`, `Operation.build_ordering`: what is made of a range
  and of its ends;
* **`Range.truth_outsideRange_eq`**, `truth_between_of_betweenExclusive`, `truth_between_eq`: the
  truth of these on a row;
* **`ranges_agree`**: the range operators take the same inputs and agree on every row.
-/

namespace FilterQuery

open Sql

/-! ## Orders of values -/

theorem comparable_symm {v w : Value} (h : comparable v w = true) : comparable w v = true := by
  obtain ⟨family, hv, hw⟩ := comparable_iff.1 h
  exact comparable_iff.2 ⟨family, hw, hv⟩

/-- An order of values, in which those of one family have their places. Others may have none. Values
may be level with each other, as `1` and `1.0` are. -/
structure ValueOrder where
  le : Value → Value → Bool
  /-- One of the values has its place before or after the other one, or level with it. -/
  places : Value → Value → Bool
  places_of_comparable : ∀ {v w : Value}, comparable v w = true → places v w = true
  symm : ∀ {v w : Value}, places v w = true → places w v = true
  total : ∀ {v w : Value}, places v w = true → le v w = true ∨ le w v = true
  trans : ∀ {u v w : Value}, places u v = true → places v w = true →
    le u v = true → le v w = true → le u w = true

namespace ValueOrder

/-- How a value compares with another one. -/
def relates (o : ValueOrder) (x v : Value) : Comparison → Bool
  | .eq => o.le x v && o.le v x
  | .ne => !(o.le x v && o.le v x)
  | .lt => o.le x v && !o.le v x
  | .le => o.le x v
  | .gt => o.le v x && !o.le x v
  | .ge => o.le v x

theorem relates_lt (o : ValueOrder) {x v : Value} (h : o.places x v = true) :
    o.relates x v .lt = !o.relates x v .ge := by
  rw [relates, relates]
  cases hvx : o.le v x with
  | true => exact Bool.and_false _
  | false =>
    have hxv : o.le x v = true := (o.total h).resolve_right (by simp [hvx])
    rw [hxv]
    rfl

theorem relates_gt (o : ValueOrder) {x v : Value} (h : o.places x v = true) :
    o.relates x v .gt = !o.relates x v .le :=
  o.relates_lt (o.symm h)

theorem relates_le_of_lt (o : ValueOrder) {x v : Value} (h : o.relates x v .lt = true) :
    o.relates x v .le = true :=
  (Bool.and_eq_true_iff.1 h).1

theorem relates_ge_of_gt (o : ValueOrder) {x v : Value} (h : o.relates x v .gt = true) :
    o.relates x v .ge = true :=
  o.relates_le_of_lt h

/-- The order of ranks within families. -/
def ofRank (rank : Value → Int) : ValueOrder where
  le v w := decide (rank v ≤ rank w)
  places := comparable
  places_of_comparable h := h
  symm := comparable_symm
  total _ := by
    simp only [decide_eq_true_eq]
    exact Int.le_total _ _
  trans _ _ huv hvw := by
    rw [decide_eq_true_eq] at *
    exact Int.le_trans huv hvw

end ValueOrder

namespace Sql.Engine

/-- A database whose cells are values compares them by an order. Between values without places
nothing is known to be less or greater. -/
structure Follows (g : Engine Value) (o : ValueOrder) : Prop where
  placed : ∀ {x v : Value} (c : Comparison), o.places x v = true →
    g.compare c x v = .ofBool (o.relates x v c)
  unplaced : ∀ {x v : Value} {c : Comparison}, (Test.compare c v).isOrder = true →
    o.places x v = false → g.compare c x v = .unknown

namespace Follows

variable {g : Engine Value} {o : ValueOrder}

theorem compared_some (h : g.Follows o) (c : Comparison) (x v : Value)
    (hc : (Test.compare c v).isOrder = true) : g.compared c (some x) v =
      if (!v.isNull && o.places x v) = true then .ofBool (o.relates x v c) else .unknown := by
  unfold compared
  cases v.isNull with
  | true => rfl
  | false =>
    cases hplaces : o.places x v with
    | true => exact h.placed c hplaces
    | false => exact h.unplaced hc hplaces

theorem compared_eq_not (h : g.Follows o) {c d : Comparison} {v : Value}
    (hc : (Test.compare c v).isOrder = true) (hd : (Test.compare d v).isOrder = true)
    (hrel : ∀ x, o.places x v = true → o.relates x v c = !o.relates x v d)
    (cell : Option Value) : g.compared c cell v = (g.compared d cell v).not := by
  cases cell with
  | none => rfl
  | some x =>
    rw [h.compared_some c x v hc, h.compared_some d x v hd]
    split
    · rename_i hplaces
      rw [hrel x (Bool.and_eq_true_iff.1 hplaces).2, Truth.ofBool_not]
    · rfl

/-- **Less is not at least.** -/
theorem compared_lt (h : g.Follows o) (cell : Option Value) (v : Value) :
    g.compared .lt cell v = (g.compared .ge cell v).not :=
  h.compared_eq_not rfl rfl (fun _ => o.relates_lt) cell

/-- **Greater is not at most.** -/
theorem compared_gt (h : g.Follows o) (cell : Option Value) (v : Value) :
    g.compared .gt cell v = (g.compared .le cell v).not :=
  h.compared_eq_not rfl rfl (fun _ => o.relates_gt) cell

theorem compared_eq_holds (h : g.Follows o) {c d : Comparison} {cell : Option Value} {v : Value}
    (hc : (Test.compare c v).isOrder = true) (hd : (Test.compare d v).isOrder = true)
    (hrel : ∀ x, o.relates x v c = true → o.relates x v d = true)
    (hholds : g.compared c cell v = .holds) : g.compared d cell v = .holds := by
  cases cell with
  | none => cases hholds
  | some x =>
    rw [h.compared_some c x v hc] at hholds
    rw [h.compared_some d x v hd]
    split at hholds
    · rw [Truth.ofBool_eq_holds_iff] at hholds
      rw [if_pos ‹_›, Truth.ofBool_eq_holds_iff]
      exact hrel x hholds
    · cases hholds

theorem compared_le_of_lt (h : g.Follows o) {cell : Option Value} {v : Value}
    (hlt : g.compared .lt cell v = .holds) : g.compared .le cell v = .holds :=
  h.compared_eq_holds rfl rfl (fun _ => o.relates_le_of_lt) hlt

theorem compared_ge_of_gt (h : g.Follows o) {cell : Option Value} {v : Value}
    (hgt : g.compared .gt cell v = .holds) : g.compared .ge cell v = .holds :=
  h.compared_eq_holds rfl rfl (fun _ => o.relates_ge_of_gt) hgt

end Follows

/-- A database of values that are in an order. -/
def ofOrder (o : ValueOrder) : Engine Value where
  same x y := o.places x y && o.relates x y .eq
  lower
    | .text s => some (.text (Text.lowercase s))
    | _ => none
  instant
    | .date d => some (.instant d.start)
    | .instant t => some (.instant t)
    | _ => none
  size
    | .list vs => some (.int (Int64.ofNat vs.length))
    | _ => none
  compare c x v := if o.places x v = true then .ofBool (o.relates x v c) else .unknown
  like x pattern := match x with
    | .text s => .ofBool (fits pattern.toList s.toList)
    | _ => .unknown

theorem follows_ofOrder (o : ValueOrder) : (ofOrder o).Follows o where
  placed _ h := if_pos h
  unplaced _ h := if_neg (by simp [h])

end Sql.Engine

/-! ## Predicates of an attribute -/

/-- The constraint of a comparison by order. -/
def Value.constraint (v : Value) (a : Operand) (c : Comparison) : Constraint :=
  .test (v.view.operand a) (.compare c (Operation.startOfDate v))

/-- The constraint that a range operator makes of an attribute. -/
def Range.constraint (r : Range) (a : Operand) (op : Operation) : Constraint :=
  (op.rangeShape (Operation.startOfDate r.start) (Operation.startOfDate r.stop)).constraint
    ((Operation.viewOf r).operand a)

theorem Range.viewOf_eq {r : Range} (h : r.start.kind = r.stop.kind) :
    Operation.viewOf r = r.start.view ∧ Operation.viewOf r = r.stop.view := by
  have hdate : r.hasDate = true ↔ r.start.kind = "date" := by
    rw [r.hasDate_iff, ← Value.kind_eq_date_iff, ← Value.kind_eq_date_iff, ← h, or_self]
  unfold Operation.viewOf Value.view
  simp only [hdate, h, and_self]

namespace Operation

variable {ctx : PredicateContext} {op : Operation} {a : Operand} {input : Input} {s : Criteria}

theorem build_eq (hop : op.countsItems = false) : op.build Criteria.backend ctx a input s =
    match op.clause ctx input with
    | .error e => .error e s
    | .ok x => .ok (x.constraint a) s := by
  have htarget : op.target Criteria.backend a s = .ok a := by
    rw [target, hop]
    rfl
  unfold build
  rw [htarget]
  cases op.clause ctx input with
  | error e => rfl
  | ok x => exact congrArg (fun p => EStateM.Result.ok p.1 p.2) (x.build_backend a s)

theorem build_of_clause {x : Clause} (hop : op.countsItems = false)
    (h : op.clause ctx input = .ok x) :
    op.build Criteria.backend ctx a input s = .ok (x.constraint a) s := by
  rw [build_eq hop, h]

theorem build_ordering {c : Comparison} {v : Value} (hop : op.countsItems = false)
    (hclause : op.clause ctx (.scalar v) = op.ordering c (.scalar v)) (h : v.isOrdered = true) :
    op.build Criteria.backend ctx a (.scalar v) s = .ok (v.constraint a c) s := by
  have hbound : op.bound (.scalar v) = .ok (v.view, startOfDate v) :=
    bound_eq_ok_iff.2 ⟨v, rfl, h, rfl, rfl⟩
  have hordering : op.ordering c (.scalar v) =
      .ok ⟨v.view, .passes (.compare c (startOfDate v))⟩ := by
    rw [ordering, hbound]
    rfl
  exact build_of_clause hop (hclause.trans hordering)

theorem countsItems_of_isRange (hop : op.isRange = true) : op.countsItems = false := by
  cases op with
  | sizeEq | sizeGt | sizeLt => cases hop
  | _ => rfl

theorem build_range {r : Range} (hop : op.isRange = true) (h : input.Spans r) :
    op.build Criteria.backend ctx a input s = .ok (r.constraint a op) s :=
  build_of_clause (countsItems_of_isRange hop) ((clause_range_eq_ok_iff hop).2 ⟨r, h, rfl⟩)

theorem exists_build_error (hop : op.isRange = true) (h : ¬ ∃ r, input.Spans r) :
    ∃ e, op.build Criteria.backend ctx a input s = .error e s := by
  rw [build_eq (countsItems_of_isRange hop)]
  cases hclause : op.clause ctx input with
  | error e => exact ⟨e, rfl⟩
  | ok x =>
    obtain ⟨r, hr, -⟩ := (clause_range_eq_ok_iff hop).1 hclause
    exact absurd ⟨r, hr⟩ h

end Operation

/-! ## Truth on rows -/

namespace Range

variable {g : Engine Value} {o : ValueOrder} {e : Env Value} {r : Range} {a : Operand}

/-- What a range is compared with on a row. -/
def cell (g : Engine Value) (e : Env Value) (a : Operand) (r : Range) : Option Value :=
  ((Operation.viewOf r).operand a).cell g e

theorem truth_between : (r.constraint a .between).truth (g.judge e) =
    (g.compared .ge (r.cell g e a) (Operation.startOfDate r.start)).and
      (g.compared .le (r.cell g e a) (Operation.startOfDate r.stop)) := rfl

theorem truth_notBetween : (r.constraint a .notBetween).truth (g.judge e) =
    ((r.constraint a .between).truth (g.judge e)).not := rfl

theorem truth_betweenExclusive : (r.constraint a .betweenExclusive).truth (g.judge e) =
    (g.compared .gt (r.cell g e a) (Operation.startOfDate r.start)).and
      (g.compared .lt (r.cell g e a) (Operation.startOfDate r.stop)) :=
  congrArg (Truth.and _) (Truth.and_holds _)

theorem truth_outsideRange : (r.constraint a .outsideRange).truth (g.judge e) =
    (g.compared .lt (r.cell g e a) (Operation.startOfDate r.start)).or
      (g.compared .gt (r.cell g e a) (Operation.startOfDate r.stop)) :=
  congrArg (Truth.or _) (Truth.or_fails _)

/-- **Outside of a range is not within it**, also if it starts after its end. -/
theorem truth_outsideRange_eq (h : g.Follows o) :
    (r.constraint a .outsideRange).truth (g.judge e) =
      (r.constraint a .notBetween).truth (g.judge e) := by
  rw [truth_outsideRange, truth_notBetween, truth_between, h.compared_lt, h.compared_gt,
    Truth.not_and]

/-- **What lies between the ends of a range lies within it.** -/
theorem truth_between_of_betweenExclusive (h : g.Follows o)
    (hinside : (r.constraint a .betweenExclusive).truth (g.judge e) = .holds) :
    (r.constraint a .between).truth (g.judge e) = .holds := by
  rw [truth_betweenExclusive, Truth.and_eq_holds_iff] at hinside
  rw [truth_between, Truth.and_eq_holds_iff]
  exact ⟨h.compared_ge_of_gt hinside.1, h.compared_le_of_lt hinside.2⟩

/-- **Within a range is from its start on and up to its end**, if both ends are looked at in the
same way. -/
theorem truth_between_eq (hkind : r.start.kind = r.stop.kind) :
    (r.constraint a .between).truth (g.judge e) =
      ((r.start.constraint a .ge).truth (g.judge e)).and
        ((r.stop.constraint a .le).truth (g.judge e)) := by
  obtain ⟨hstart, hstop⟩ := viewOf_eq hkind
  rw [Value.constraint, Value.constraint, ← hstart, ← hstop]
  rfl

theorem truth_null {op : Operation} (hop : op.isRange = true) (h : a.cell g e = none) :
    (r.constraint a op).truth (g.judge e) = .unknown := by
  have hcell : r.cell g e a = none := by
    rw [cell, View.cell_operand, h]
    cases Operation.viewOf r <;> rfl
  cases op with
  | between => rw [truth_between, hcell]; rfl
  | notBetween => rw [truth_notBetween, truth_between, hcell]; rfl
  | betweenExclusive => rw [truth_betweenExclusive, hcell]; rfl
  | outsideRange => rw [truth_outsideRange, hcell]; rfl
  | _ => cases hop

end Range

/-- **Range operators agree with each other.** All of them take an input that is a range, and none
takes another one. On every row of a database with an order, wherever the ends of the range lie in
it: outside of the range is not within it; between its ends is within it; within it is from the
start on and up to the end, if these are of one kind; and nothing is known of a null. -/
theorem ranges_agree (ctx : PredicateContext) (a : Operand) (input : Input) (s : Criteria) :
    ((¬ ∃ r, input.Spans r) ∧ ∀ op : Operation, op.isRange = true →
      ∃ e, op.build Criteria.backend ctx a input s = .error e s) ∨
    ∃ (r : Range) (p : Operation → Constraint) (lower upper : Constraint), input.Spans r ∧
      (∀ op : Operation, op.isRange = true →
        op.build Criteria.backend ctx a input s = .ok (p op) s) ∧
      Operation.greaterOrEqual.build Criteria.backend ctx a (.scalar r.start) s = .ok lower s ∧
      Operation.lessOrEqual.build Criteria.backend ctx a (.scalar r.stop) s = .ok upper s ∧
      ∀ (g : Engine Value) (o : ValueOrder), g.Follows o → ∀ e : Env Value,
        let truth (k : Constraint) := k.truth (g.judge e)
        truth (p .outsideRange) = truth (p .notBetween) ∧
        truth (p .notBetween) = (truth (p .between)).not ∧
        (truth (p .betweenExclusive) = .holds → truth (p .between) = .holds) ∧
        (r.start.kind = r.stop.kind → truth (p .between) = (truth lower).and (truth upper)) ∧
        (a.cell g e = none → ∀ op : Operation, op.isRange = true → truth (p op) = .unknown) := by
  by_cases hspans : ∃ r, input.Spans r
  · right
    obtain ⟨r, hr⟩ := hspans
    refine ⟨r, r.constraint a, r.start.constraint a .ge, r.stop.constraint a .le, hr,
      fun op hop => Operation.build_range hop hr, Operation.build_ordering rfl rfl r.isOrdered.1,
      Operation.build_ordering rfl rfl r.isOrdered.2, ?_⟩
    intro g o hg e
    exact ⟨Range.truth_outsideRange_eq hg, Range.truth_notBetween,
      Range.truth_between_of_betweenExclusive hg, Range.truth_between_eq,
      fun hnull op hop => Range.truth_null hop hnull⟩
  · left
    exact ⟨hspans, fun op hop => Operation.exists_build_error hop hspans⟩

/-- Whole numbers by their size and moments by their time. Other values are level. -/
def Value.rank : Value → Int
  | int n => n.toInt
  | date d => d.start.seconds
  | instant t => t.seconds
  | _ => 0

/-- A range that starts after its end: nothing lies within it, and `5` lies outside of it. -/
theorem ranges_agree_reversed : ∃ (p : Operation → Constraint) (lower upper : Constraint),
    let truth (row : Row Value) (k : Constraint) :=
      k.truth ((Engine.ofOrder (.ofRank Value.rank)).judge (Env.root row))
    let five : Row Value := .ofCells [("age", .int 5)]
    (∀ op : Operation, op.isRange = true →
      op.build Criteria.backend (Compiler.atEpoch .left).context (.column "t0" "age")
        (.list [.int 9, .int 1]) people = .ok (p op) people) ∧
    truth five (p .between) = .fails ∧ truth five (p .notBetween) = .holds ∧
    truth five (p .betweenExclusive) ≠ .holds ∧ truth five (p .outsideRange) = .holds ∧
    (truth five lower).and (truth five upper) = .fails ∧
    truth .null (p .outsideRange) = .unknown := by
  have hbuild : Operation.between.build Criteria.backend (Compiler.atEpoch .left).context
      (.column "t0" "age") (.list [.int 9, .int 1]) people =
        .ok (.test (.column "t0" "age") (.between (.int 9) (.int 1))) people := rfl
  rcases ranges_agree (Compiler.atEpoch .left).context (.column "t0" "age")
    (.list [.int 9, .int 1]) people with ⟨-, hno⟩ | ⟨r, p, lower, upper, hr, hp, -, -, hagree⟩
  · obtain ⟨e, he⟩ := hno .between rfl
    cases hbuild.symm.trans he
  · have hbetween : p .between = .test (.column "t0" "age") (.between (.int 9) (.int 1)) :=
      (EStateM.Result.ok.inj (hbuild.symm.trans (hp .between rfl))).1.symm
    have hkind : r.start.kind = r.stop.kind := by
      rcases hr with hr | hr | hr
      · cases hr
      · simp only [Input.list.injEq, List.cons.injEq, and_true] at hr
        rw [← hr.1, ← hr.2]
        rfl
      · cases hr
    have hfollows := Engine.follows_ofOrder (.ofRank Value.rank)
    obtain ⟨hbeyond, hwithout, hinside, hbounds, -⟩ :=
      hagree _ _ hfollows (Env.root (Row.ofCells [("age", .int 5)]))
    obtain ⟨-, -, -, -, hnull⟩ := hagree _ _ hfollows (Env.root Row.null)
    have hfails : (p .between).truth ((Engine.ofOrder (.ofRank Value.rank)).judge
        (Env.root (Row.ofCells [("age", .int 5)]))) = .fails := by
      rw [hbetween]
      decide +kernel
    refine ⟨p, lower, upper, hp, hfails, ?_, fun hholds => ?_, ?_, ?_, hnull rfl _ rfl⟩
    · exact hwithout.trans (congrArg Truth.not hfails)
    · cases hfails.symm.trans (hinside hholds)
    · exact (hbeyond.trans hwithout).trans (congrArg Truth.not hfails)
    · exact (hbounds hkind).symm.trans hfails

end FilterQuery

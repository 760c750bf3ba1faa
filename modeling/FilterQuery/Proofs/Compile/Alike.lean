import FilterQuery.Proofs.Compile.Inputs
import FilterQuery.Proofs.Compile.Outline
import FilterQuery.Proofs.Sql.Sort

/-!
# Values do not show in the text

Two objects whose fields hold inputs of the same form compile to the same statements, whatever the
values are and whenever they are compiled. Only the bound values differ.

* `Operation.ListsAlike`, `Input.Alike`, `Field.Alike`: inputs of the same form, for an operator;
* **`Operation.clause_outline`**: an operator makes clauses of one outline of alike inputs;
* **`sql_eq_of_alike`**: the statements of two alike objects.
-/

namespace FilterQuery

open Sql

/-! ## Inputs of the same form -/

/-- Lists of the same form: of one length for an operator that takes members, with ends of the same
kinds for one that takes a range. -/
def Operation.ListsAlike (vs ws : List Value) : Operation → Prop
  | isIn | notIn => vs.length = ws.length
  | between | notBetween | betweenExclusive | outsideRange => vs.map Value.kind = ws.map Value.kind
  | _ => True

/-- Inputs of the same form for an operator, with the same flag if it takes one. -/
inductive Input.Alike (op : Operation) : Input → Input → Prop
  | scalar {v w : Value} (kind : v.kind = w.kind)
      (lists : ∀ vs ws, v = .list vs → w = .list ws → op.ListsAlike vs ws)
      (flags : op = .isNull ∨ op = .isNotNull → ∀ x y, v = .bool x → w = .bool y → x = y) :
      Alike op (.scalar v) (.scalar w)
  | list {vs ws : List Value} (lists : op.ListsAlike vs ws) : Alike op (.list vs) (.list ws)
  | range {r q : Range} (start : r.start.kind = q.start.kind) (stop : r.stop.kind = q.stop.kind) :
      Alike op (.range r) (.range q)

/-- The field is set in both objects, to inputs of the same form, or in neither. -/
inductive Field.Alike {F : Type} (object object' : F) (f : Field F) : Prop
  | unset (h : f.held object = none) (h' : f.held object' = none)
  | set {input input' : Input} (h : f.held object = some (f.declaration, input))
      (h' : f.held object' = some (f.declaration, input'))
      (alike : input.Alike f.declaration.operation input')

/-! ## Outlines of clauses -/

namespace Operation

variable {op : Operation} {ctx ctx' : PredicateContext} {a b : Input}

theorem dated_congr {r q : Range} (hstart : r.start.kind = q.start.kind)
    (hstop : r.stop.kind = q.stop.kind) :
    (r.isTemporal && r.hasDate) = (q.isTemporal && q.hasDate) := by
  rw [r.isTemporal_and_hasDate, q.isTemporal_and_hasDate, Bool.eq_iff_iff, r.hasDate_iff,
    q.hasDate_iff]
  simp only [← Value.kind_eq_date_iff, hstart, hstop]

theorem outline_compare (c : Comparison) {v w : Value} (hv : v.isScalar = true)
    (hw : w.isScalar = true) : (Test.compare c v).outline = (Test.compare c w).outline := by
  rw [Test.outline, Test.outline, Value.isNull_of_isScalar hv, Value.isNull_of_isScalar hw]

theorem kind_of_alike {v w : Value} (h : Input.Alike op (.scalar v) (.scalar w)) :
    v.kind = w.kind := by
  cases h with
  | scalar kind => exact kind

theorem ordering_outline {c : Comparison} {x y : Clause} (alike : a.Alike op b)
    (ha : op.ordering c a = .ok x) (hb : op.ordering c b = .ok y) : x.outline = y.outline := by
  obtain ⟨⟨view, v⟩, hv, rfl⟩ := exceptMap_eq_ok_iff.1 ha
  obtain ⟨⟨view', w⟩, hw, rfl⟩ := exceptMap_eq_ok_iff.1 hb
  obtain ⟨hvn, v', rfl, rfl⟩ := bound_spec hv
  obtain ⟨hwn, w', rfl, rfl⟩ := bound_spec hw
  simp only [Clause.outline, Shape.outline, outline_compare c hvn hwn, kind_of_alike alike]

theorem length_members {vs ws : List Value} (hop : op = .isIn ∨ op = .notIn)
    (alike : a.Alike op b) (ha : op.members ctx a = .ok vs) (hb : op.members ctx' b = .ok ws) :
    vs.length = ws.length := by
  have hlists : op.ListsAlike vs ws := by
    rcases members_spec ha with rfl | rfl <;> rcases members_spec hb with rfl | rfl <;> cases alike
    case list lists => exact lists
    case scalar _ lists _ => exact lists vs ws rfl rfl
  rcases hop with rfl | rfl <;> exact hlists

theorem range_kinds {r q : Range} (hop : op = .between ∨ op = .notBetween ∨ op = .betweenExclusive ∨
      op = .outsideRange)
    (alike : a.Alike op b) (ha : op.range a = .ok r) (hb : op.range b = .ok q) :
    r.start.kind = q.start.kind ∧ r.stop.kind = q.stop.kind := by
  have hlists : ∀ vs ws : List Value, op.ListsAlike vs ws →
      vs.map Value.kind = ws.map Value.kind := by
    rcases hop with rfl | rfl | rfl | rfl <;> exact fun _ _ h => h
  have hpair : op.ListsAlike [r.start, r.stop] [q.start, q.stop] →
      r.start.kind = q.start.kind ∧ r.stop.kind = q.stop.kind := by
    intro h
    simpa using hlists _ _ h
  rcases range_spec ha with rfl | rfl | rfl <;> rcases range_spec hb with rfl | rfl | rfl <;>
    cases alike
  case range start stop => exact ⟨start, stop⟩
  case list lists => exact hpair lists
  case scalar _ lists _ => exact hpair (lists _ _ rfl rfl)

theorem ranging_outline {shape : Value → Value → Shape} {x y : Clause}
    (hop : op = .between ∨ op = .notBetween ∨ op = .betweenExclusive ∨ op = .outsideRange)
    (hshape : ∀ v v' w w' : Value, v.isScalar = true → v'.isScalar = true → w.isScalar = true →
      w'.isScalar = true → (shape v w).outline = (shape v' w').outline)
    (alike : a.Alike op b) (ha : op.ranging shape a = .ok x) (hb : op.ranging shape b = .ok y) :
    x.outline = y.outline := by
  obtain ⟨⟨view, v, w⟩, hv, rfl⟩ := exceptMap_eq_ok_iff.1 ha
  obtain ⟨⟨view', v', w'⟩, hv', rfl⟩ := exceptMap_eq_ok_iff.1 hb
  obtain ⟨hvn, hwn, r, hr, rfl⟩ := ends_spec hv
  obtain ⟨hvn', hwn', q, hq, rfl⟩ := ends_spec hv'
  obtain ⟨hstart, hstop⟩ := range_kinds hop alike hr hq
  simp only [Clause.outline, hshape v v' w w' hvn hvn' hwn hwn', dated_congr hstart hstop]

theorem flagged_outline {t : Test} {x y : Clause} (hop : op = .isNull ∨ op = .isNotNull)
    (alike : a.Alike op b) (ha : op.flagged t a = .ok x) (hb : op.flagged t b = .ok y) :
    x.outline = y.outline := by
  obtain ⟨u, hu, hx⟩ := exceptBind_eq_ok_iff.1 ha
  obtain ⟨v, hv, hy⟩ := exceptBind_eq_ok_iff.1 hb
  obtain rfl := flag_spec hu
  obtain rfl := flag_spec hv
  have huv : u = v := by
    cases alike with
    | scalar _ _ flags => exact flags hop u v rfl rfl
  subst huv
  rw [hx, Except.ok.injEq] at hy
  rw [hy]

/-- **An operator makes clauses of one outline of inputs of the same form**, at any time. -/
theorem clause_outline {x y : Clause} (alike : a.Alike op b) (ha : op.clause ctx a = .ok x)
    (hb : op.clause ctx' b = .ok y) : x.outline = y.outline := by
  cases op with
  | equal | notEqual =>
    obtain ⟨v, hv, rfl⟩ := exceptMap_eq_ok_iff.1 ha
    obtain ⟨w, hw, rfl⟩ := exceptMap_eq_ok_iff.1 hb
    have hv' : v.isScalar = true := isScalar_scalar hv
    have hw' : w.isScalar = true := isScalar_scalar hw
    simp only [Clause.outline, Shape.outline, outline_compare _ hv' hw']
  | like | notLike | startsWith | endsWith | sizeEq | sizeGt | sizeLt =>
    obtain ⟨v, -, rfl⟩ := exceptMap_eq_ok_iff.1 ha
    obtain ⟨w, -, rfl⟩ := exceptMap_eq_ok_iff.1 hb
    rfl
  | greaterThan | greaterOrEqual | lessThan | lessOrEqual => exact ordering_outline alike ha hb
  | isIn | notIn =>
    obtain ⟨vs, hv, rfl⟩ := exceptMap_eq_ok_iff.1 ha
    obtain ⟨ws, hw, rfl⟩ := exceptMap_eq_ok_iff.1 hb
    have hlen : vs.length = ws.length := length_members (by simp) alike hv hw
    simp only [Clause.outline, Shape.outline, Test.outline, List.map_const', hlen]
  | between | notBetween =>
    unfold clause at ha hb
    exact ranging_outline (by simp) (fun _ _ _ _ _ _ _ _ => rfl) alike ha hb
  | betweenExclusive | outsideRange =>
    unfold clause at ha hb
    refine ranging_outline (by simp) (fun v v' w w' hv hv' hw hw' => ?_) alike ha hb
    simp only [Shape.outline, outline_compare _ hv hv', outline_compare _ hw hw']
  | onDate =>
    obtain ⟨d, -, hx⟩ := exceptBind_eq_ok_iff.1 ha
    obtain ⟨e, -, hy⟩ := exceptBind_eq_ok_iff.1 hb
    split at hx
    · cases hx
    split at hy
    · cases hy
    cases hx
    cases hy
    rfl
  | inLastDays | inNextDays =>
    obtain ⟨m, -, hx⟩ := exceptBind_eq_ok_iff.1 ha
    obtain ⟨n, -, hy⟩ := exceptBind_eq_ok_iff.1 hb
    obtain ⟨u, -, rfl⟩ := exceptMap_eq_ok_iff.1 hx
    obtain ⟨v, -, rfl⟩ := exceptMap_eq_ok_iff.1 hy
    rfl
  | isTrue | isFalse =>
    cases ha
    cases hb
    rfl
  | isNull | isNotNull => exact flagged_outline (by simp) alike ha hb

end Operation

/-! ## Compilations of alike objects -/

section

variable {c : Compiler} {now : Instant} {s : Criteria} {fields fields' : List (Declaration × Input)}
  {blocks blocks' : List (List Join)} {ps ps' : List Constraint}

/-- Fields of the same form, one by one, are given the same joins and predicates of one outline. -/
theorem Built.outline (h : Built c s fields blocks ps)
    (h' : Built { c with now := now } s fields' blocks' ps')
    (alike : List.Forall₂ (fun f g => g.1 = f.1 ∧ f.2.Alike f.1.operation g.2) fields fields') :
    blocks' = blocks ∧ ps'.map Constraint.outline = ps.map Constraint.outline := by
  induction h generalizing fields' blocks' ps' with
  | nil =>
    cases alike
    cases h'
    exact ⟨rfl, rfl⟩
  | @cons s d input p rest blocks ps _ build tail ih =>
    obtain _ | ⟨⟨hd, halike⟩, hrest⟩ := alike
    cases h' with
    | @cons _ d' input' p' rest' blocks' ps' _ build' tail' =>
      obtain rfl : d' = d := hd
      obtain ⟨-, -, x, hx, rfl⟩ := Operation.build_backend_eq_ok_iff.1 build
      obtain ⟨-, -, y, hy, rfl⟩ := Operation.build_backend_eq_ok_iff.1 build'
      have hxy : x.outline = y.outline := Operation.clause_outline halike hx hy
      -- the clock is no part of what joins and columns are made of
      obtain ⟨hblocks, hps⟩ := ih tail' hrest
      refine ⟨congrArg (c.block s d' :: ·) hblocks, ?_⟩
      rw [List.map_cons, List.map_cons, hps, Clause.outline_constraint, Clause.outline_constraint,
        hxy]
      rfl

theorem held_alike {F : Type} {object object' : F} {fs : List (Field F)}
    (h : ∀ f ∈ fs, f.Alike object object') :
    List.Forall₂ (fun f g => g.1 = f.1 ∧ f.2.Alike f.1.operation g.2)
      (fs.filterMap (Field.held object)) (fs.filterMap (Field.held object')) := by
  induction fs with
  | nil => exact .nil
  | cons f rest ih =>
    obtain ⟨hf, hrest⟩ := List.forall_mem_cons.1 h
    cases hf with
    | unset hn hn' =>
      rw [List.filterMap_cons_none hn, List.filterMap_cons_none hn']
      exact ih hrest
    | set hs hs' alike =>
      rw [List.filterMap_cons_some hs, List.filterMap_cons_some hs']
      exact .cons ⟨rfl, alike⟩ (ih hrest)

theorem constraint_outline {F : Type} {t : FilterType F} {object object' : F}
    (alike : ∀ f ∈ t.declarations.fields, f.Alike object object') {s₁ s₂ : Criteria}
    {k l : Constraint} (h : c.constraint Criteria.backend t object s = .ok k s₁)
    (h' : Compiler.constraint Criteria.backend { c with now := now } t object' s = .ok l s₂) :
    s₂ = s₁ ∧ l.outline = k.outline := by
  obtain ⟨fields, blocks, ps, hactive, hb, rfl, rfl⟩ := constraint_eq_ok_iff.1 h
  obtain ⟨fields', blocks', ps', hactive', hb', rfl, rfl⟩ := constraint_eq_ok_iff.1 h'
  obtain ⟨-, rfl⟩ := Declarations.active_eq_ok_iff.1 hactive
  obtain ⟨-, rfl⟩ := Declarations.active_eq_ok_iff.1 hactive'
  obtain ⟨rfl, hps⟩ := hb.outline hb' (held_alike alike)
  rw [Constraint.outline_and, Constraint.outline_and, hps]
  exact ⟨rfl, rfl⟩

end

theorem Sql.Criteria.finish_outline {s : Criteria} {k l : Constraint} {page : PageRequest}
    {q q' : SelectQuery} (h : l.outline = k.outline) (hq : s.finish k page = .ok q)
    (hq' : s.finish l page = .ok q') :
    q'.sql = q.sql ∧ q'.countSql = q.countSql ∧ q'.params.length = q.params.length := by
  obtain ⟨order, d, hsort, rfl⟩ := Criteria.finish_eq_ok_iff.1 hq
  obtain ⟨order', d', hsort', rfl⟩ := Criteria.finish_eq_ok_iff.1 hq'
  rw [hsort, EStateM.Result.ok.injEq] at hsort'
  obtain ⟨rfl, rfl⟩ := hsort'
  have hwhere : whereClause d.dialect l = whereClause d.dialect k := by
    rw [whereClause, whereClause, Constraint.isAlways_of_outline h, Constraint.sql_eq_of_outline h]
  refine ⟨?_, ?_, Constraint.length_params_of_outline h⟩
  · rw [Criteria.select, Criteria.select, hwhere]
  · rw [Criteria.select, Criteria.select, hwhere]

/-- **Values do not show in the text.** Two objects of one filter type whose fields hold inputs of
the same form make the same joins and the same statements, even at different times. -/
theorem sql_eq_of_alike {F : Type} (c : Compiler) (now : Instant) (t : FilterType F)
    (object object' : F) (page : PageRequest) {s s₁ s₂ : Criteria} {r r' : Compiled Constraint}
    (alike : ∀ f ∈ t.declarations.fields, f.Alike object object')
    (h : c.compile Criteria.backend t object page s = .ok r s₁)
    (h' : Compiler.compile Criteria.backend { c with now := now } t object' page s = .ok r' s₂) :
    s₂ = s₁ ∧ r'.page = r.page ∧
      ∀ page' q q', s₁.finish r.constraint page' = .ok q → s₂.finish r'.constraint page' = .ok q' →
        q'.sql = q.sql ∧ q'.countSql = q.countSql ∧ q'.params.length = q.params.length := by
  obtain ⟨hk, hpage⟩ := compile_eq_ok_iff.1 h
  obtain ⟨hk', hpage'⟩ := compile_eq_ok_iff.1 h'
  obtain ⟨rfl, houtline⟩ := constraint_outline alike hk hk'
  exact ⟨rfl, hpage'.trans hpage.symm, fun _ _ _ => Sql.Criteria.finish_outline houtline⟩

/-- One object asks for members seen in the last days, the other for members of longer ago. The last
field is not set in one and null in the other. -/
def membership : FilterType Bool := ⟨"Membership", ⟨[
  ⟨⟨"name", .like, ""⟩, fun b => .ok (some (.scalar (.text (if b then "x" else "y%"))))⟩,
  ⟨⟨"role", .isIn, "account.role"⟩,
    fun b => .ok (some (.list (if b then [.text "A", .null] else [.text "B", .int 2])))⟩,
  ⟨⟨"age", .between, ""⟩,
    fun b => .ok (some (.list (if b then [.int 18, .int 30] else [.int 70, .int 7])))⟩,
  ⟨⟨"seen", .inLastDays, ""⟩, fun b => .ok (some (.scalar (.int (if b then 3 else 40))))⟩,
  ⟨⟨"left", .isNull, ""⟩, fun _ => .ok (some (.scalar (.bool true)))⟩,
  ⟨⟨"note", .equal, ""⟩, fun b => .ok (if b then none else some (.scalar .null))⟩]⟩⟩

theorem membership_alike : ∀ f ∈ membership.declarations.fields, f.Alike true false := by
  simp only [membership, List.forall_mem_cons, List.not_mem_nil, false_implies, implies_true,
    and_true]
  refine ⟨.set rfl rfl (.scalar rfl ?_ ?_), .set rfl rfl (.list rfl), .set rfl rfl (.list rfl),
    .set rfl rfl (.scalar rfl ?_ ?_), .set rfl rfl (.scalar rfl ?_ ?_), .unset rfl rfl⟩
  all_goals simp

theorem sql_eq_of_alike_membership : ∃ (now : Instant) (r r' : Compiled Constraint)
    (s₁ s₂ : Criteria) (q q' : SelectQuery), now.seconds = 86400 ∧
    (Compiler.atEpoch .inner).compile Criteria.backend membership true byOwner people = .ok r s₁ ∧
    Compiler.compile Criteria.backend { Compiler.atEpoch .inner with now := now } membership false
      byOwner people = .ok r' s₂ ∧
    s₁.finish r.constraint byOwner = .ok q ∧ s₂.finish r'.constraint byOwner = .ok q' ∧
    q.params.length = 7 ∧ s₂ = s₁ ∧ q'.sql = q.sql ∧ q'.countSql = q.countSql ∧
    q'.params.length = q.params.length := by
  let now : Instant := ⟨86400, 0, by decide, by decide, zero_lt_twoBillion⟩
  obtain ⟨r, s₁, h, hcheck⟩ := exists_of_passes
    ((Compiler.atEpoch .inner).compile Criteria.backend membership true byOwner people)
    (fun r c => r.constraint.params.length == 7 &&
      passes (Criteria.sortOperands byOwner.sort c) fun _ _ => true)
    (by decide +kernel)
  obtain ⟨r', s₂, h', hcheck'⟩ := exists_of_passes
    (Compiler.compile Criteria.backend { Compiler.atEpoch .inner with now := now } membership false
      byOwner people)
    (fun _ c => passes (Criteria.sortOperands byOwner.sort c) fun _ _ => true)
    (by decide +kernel)
  rw [Bool.and_eq_true, beq_iff_eq] at hcheck
  obtain ⟨order, d, hsort, -⟩ := exists_of_passes _ _ hcheck.2
  obtain ⟨order', d', hsort', -⟩ := exists_of_passes _ _ hcheck'
  have hq : s₁.finish r.constraint byOwner = .ok (d.select s₁.joins r.constraint order byOwner) :=
    Criteria.finish_eq_ok_iff.2 ⟨_, _, hsort, rfl⟩
  have hq' : s₂.finish r'.constraint byOwner =
      .ok (d'.select s₂.joins r'.constraint order' byOwner) :=
    Criteria.finish_eq_ok_iff.2 ⟨_, _, hsort', rfl⟩
  obtain ⟨hs, -, hsame⟩ := sql_eq_of_alike _ now _ _ _ _ membership_alike h h'
  exact ⟨now, r, r', s₁, s₂, _, _, rfl, h, h', hq, hq', hcheck.1, hs, hsame _ _ _ hq hq'⟩

end FilterQuery

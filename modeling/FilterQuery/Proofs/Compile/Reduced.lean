import FilterQuery.Proofs.Compile.Renumbering
import FilterQuery.Proofs.Rows.Flags
import FilterQuery.Proofs.Sql.Words

/-!
# Reduced constraints

What is compiled leaves out what has no effect, and combines two constraints at least.

* `Constraint.Reduced`; **`Constraint.reduced_and`**: the combination of constraints that are
  reduced or without effect;
* **`Constraint.Reduced.literals_eq`**: a reduced constraint is written without `TRUE`;
* `Operation.Skips`, **`Operation.asks_of_clause`**, `Built.reduced`: an operator asks for something
  unless it is a flag that is not set;
* **`compile_reduced`**: compiled constraints are reduced, and how that shows in statements.
-/

namespace FilterQuery

open Sql

/-! ## Reduced constraints -/

/-- The test has no opposite that could stand in its place. -/
def Test.takesNot : Test → Bool
  | like _ | isIn _ | between _ _ => true
  | _ => false

namespace Sql.Constraint

/-- Nothing in the constraint is without effect: it combines two others at least, and negates only
tests that have no opposite. -/
inductive Reduced : Constraint → Prop
  | test (a : Operand) (t : Test) : Reduced (.test a t)
  | all {cs : List Constraint} (two : 2 ≤ cs.length) (parts : ∀ c ∈ cs, Reduced c) :
    Reduced (.all cs)
  | any {cs : List Constraint} (two : 2 ≤ cs.length) (parts : ∀ c ∈ cs, Reduced c) :
    Reduced (.any cs)
  | neg (a : Operand) {t : Test} (takes : t.takesNot = true) : Reduced (.neg (.test a t))

theorem isAlways_iff {c : Constraint} : c.isAlways = true ↔ c = .always := by
  cases c <;> simp [isAlways]

theorem Reduced.ne_always {c : Constraint} (h : c.Reduced) : c ≠ .always := by
  rintro rfl
  cases h

/-- **A combination has no effect if no part has one**, and is reduced otherwise. -/
theorem reduced_and {cs : List Constraint} (h : ∀ c ∈ cs, c = .always ∨ c.Reduced) :
    (Constraint.and cs = .always ↔ ∀ c ∈ cs, c = .always) ∧
      (Constraint.and cs = .always ∨ (Constraint.and cs).Reduced) := by
  have hfilter : cs.filter (!·.isAlways) = [] ↔ ∀ c ∈ cs, c = .always := by
    simp [List.filter_eq_nil_iff, isAlways_iff]
  have hparts : ∀ c ∈ cs.filter (!·.isAlways), c.Reduced := by
    intro c hc
    obtain ⟨hmem, hnot⟩ := List.mem_filter.1 hc
    refine (h c hmem).resolve_left ?_
    rintro rfl
    cases hnot
  rw [← hfilter, Constraint.and]
  generalize cs.filter (!·.isAlways) = ds at hparts
  rcases ds with _ | ⟨c, _ | ⟨d, ds⟩⟩
  · exact ⟨iff_of_true rfl rfl, .inl rfl⟩
  · have hc : c.Reduced := hparts c List.mem_cons_self
    exact ⟨iff_of_false hc.ne_always (by simp), .inr hc⟩
  · have hall : (Constraint.all (c :: d :: ds)).Reduced := .all (by simp) hparts
    exact ⟨iff_of_false hall.ne_always (by simp), .inr hall⟩

/-! ## Literals -/

theorem literalsOf_eq (cs : List Constraint) : literalsOf cs = cs.flatMap literals := by
  induction cs with
  | nil => rfl
  | cons c cs ih => rw [literalsOf, ih, List.flatMap_cons]

theorem literals_test (a : Operand) (t : Test) : (test a t).literals =
    ((test a t).tests.filter (·.2.isInNothing)).map fun _ => "FALSE" := by
  rw [literals, tests]
  cases h : t.isInNothing with
  | true => simp [h]
  | false => simp [h]

/-- **A reduced constraint is written without `TRUE`**, and with `FALSE` for each empty list of
members. -/
theorem Reduced.literals_eq {k : Constraint} (h : k.Reduced) :
    k.literals = (k.tests.filter (·.2.isInNothing)).map fun _ => "FALSE" := by
  have hparts : ∀ cs : List Constraint, (∀ c ∈ cs, c.literals =
      (c.tests.filter (·.2.isInNothing)).map fun _ => "FALSE") →
      literalsOf cs = ((testsOf cs).filter (·.2.isInNothing)).map fun _ => "FALSE" := by
    intro cs h
    rw [literalsOf_eq, testsOf_eq, List.filter_flatMap, List.map_flatMap]
    exact List.flatMap_congr h
  induction h with
  | test a t => exact literals_test a t
  | @all cs two _ ih =>
    cases cs with
    | nil => cases two
    | cons c cs => exact hparts _ ih
  | @any cs two _ ih =>
    cases cs with
    | nil => cases two
    | cons c cs => exact hparts _ ih
  | neg a _ => exact literals_test a _

end Sql.Constraint

/-! ## Clauses -/

/-- The shape asks for something, and negates only a test that has no opposite. -/
def Shape.Asks : Shape → Prop
  | always => False
  | fails t => t.takesNot = true
  | _ => True

theorem Shape.Asks.reduced {shape : Shape} (h : shape.Asks) (a : Operand) :
    (shape.constraint a).Reduced := by
  have hparts : ∀ t u : Test, ∀ c ∈ [Constraint.test a t, .test a u], c.Reduced := by
    intro t u c hc
    simp only [List.mem_cons, List.not_mem_nil, or_false] at hc
    rcases hc with rfl | rfl <;> exact .test _ _
  cases shape with
  | always => cases h
  | passes t => exact .test a t
  | fails t => exact .neg a h
  | both t u => exact .all (by simp) (hparts t u)
  | either t u => exact .any (by simp) (hparts t u)

/-- The operator asks for nothing with this input. -/
def Operation.Skips (op : Operation) (input : Input) : Prop := op.testsNull ∧ input = .unset

namespace Operation

variable {ctx : PredicateContext} {op : Operation} {input : Input} {x : Clause}

theorem asks_of_flagged {t : Test} (hop : op.testsNull) (h : op.flagged t input = .ok x) :
    (op.Skips input ∧ x.shape = .always) ∨ (¬ op.Skips input ∧ x.shape.Asks) := by
  obtain ⟨set, hset, hx⟩ := exceptBind_eq_ok_iff.1 h
  rw [flag_eq_ok_iff] at hset
  subst hset
  cases set with
  | false =>
    cases hx
    exact .inl ⟨⟨hop, rfl⟩, rfl⟩
  | true =>
    cases hx
    exact .inr ⟨fun hskips => (by cases hskips.2), trivial⟩

/-- **An operator asks for something, unless it is a flag that is not set.** -/
theorem asks_of_clause (h : op.clause ctx input = .ok x) :
    (op.Skips input ∧ x.shape = .always) ∨ (¬ op.Skips input ∧ x.shape.Asks) := by
  by_cases hop : op.testsNull
  · rcases hop with rfl | rfl
    · exact asks_of_flagged (.inl rfl) h
    · exact asks_of_flagged (.inr rfl) h
  refine .inr ⟨fun hskips => hop hskips.1, ?_⟩
  cases op with
  | equal | notEqual | like | startsWith | endsWith | greaterThan | greaterOrEqual | lessThan
  | lessOrEqual | isIn | between | betweenExclusive | outsideRange | sizeEq | sizeGt | sizeLt =>
    obtain ⟨_, -, rfl⟩ := exceptMap_eq_ok_iff.1 h
    trivial
  | notLike | notIn | notBetween =>
    obtain ⟨_, -, rfl⟩ := exceptMap_eq_ok_iff.1 h
    rfl
  | onDate =>
    obtain ⟨day, -, hx⟩ := exceptBind_eq_ok_iff.1 h
    split at hx <;> cases hx
    trivial
  | inLastDays | inNextDays =>
    obtain ⟨days, -, hx⟩ := exceptBind_eq_ok_iff.1 h
    obtain ⟨t, -, rfl⟩ := exceptMap_eq_ok_iff.1 hx
    trivial
  | isTrue | isFalse =>
    cases h
    trivial
  | isNull => exact absurd (.inl rfl) hop
  | isNotNull => exact absurd (.inr rfl) hop

end Operation

section

variable {c : Compiler} {s : Criteria} {fields : List (Declaration × Input)}
  {blocks : List (List Join)} {ps : List Constraint}

theorem Built.reduced (h : Built c s fields blocks ps) :
    (∀ p ∈ ps, p = .always ∨ p.Reduced) ∧
      ((∀ p ∈ ps, p = .always) ↔ ∀ f ∈ fields, f.1.operation.Skips f.2) := by
  have hclauses := h.forall₂_clause
  clear h
  induction hclauses with
  | nil => simp
  | @cons f p fields ps hf _ ih =>
    obtain ⟨⟨view, shape⟩, q, hx, rfl⟩ := hf
    simp only [List.forall_mem_cons]
    rcases Operation.asks_of_clause hx with ⟨hskips, rfl⟩ | ⟨hskips, hasks⟩
    · exact ⟨⟨.inl rfl, ih.1⟩, and_congr (iff_of_true rfl hskips) ih.2⟩
    · have hreduced : (Clause.constraint (f.1.operation.look (.column q f.1.leaf))
          ⟨view, shape⟩).Reduced := hasks.reduced _
      exact ⟨⟨.inr hreduced, ih.1⟩, and_congr (iff_of_false hreduced.ne_always hskips) ih.2⟩

end

theorem Sql.Criteria.InUse.select_of_finish {s : Criteria} {k : Constraint} {page : PageRequest}
    {q : SelectQuery} (hs : s.InUse) (hq : s.finish k page = .ok q) :
    ∃ (order : List (SortKey × Operand)) (s' : Criteria), q = s'.select s.joins k order page ∧
      s'.dialect = s.dialect ∧ (∀ j ∈ s'.joins, j.Scoped s'.dialect) ∧
      (∀ j ∈ s.joins, j ∈ s'.joins) ∧ ∀ key ∈ order, IsAlias key.2.qualifier := by
  obtain ⟨order, s', hsort, rfl⟩ := Criteria.finish_eq_ok_iff.1 hq
  obtain ⟨hgrown, hkeys⟩ := Criteria.grown_sortOperands hsort
  obtain ⟨hnumbered, hscoped⟩ := (hs.changed hgrown.changes).scoped
  refine ⟨order, s', rfl, ?_, hscoped, fun j hj => hgrown.prefix_joins.subset hj, ?_⟩
  · obtain ⟨js, rfl⟩ := hgrown.exists_withJoins
    rfl
  · intro key hkey
    obtain ⟨source, hsource, leaf, hcolumn⟩ := hkeys key hkey
    rw [hcolumn]
    exact isAlias_of_mem hnumbered hsource

/-- **Compiled constraints are reduced**, or there is no constraint. There is none if all fields
that hold a value are flags that are not set, and then no statement has a condition. Any other
constraint is written without `TRUE`, and with `FALSE` only for an empty list of members. -/
theorem compile_reduced {F : Type} (c : Compiler) (t : FilterType F) (object : F)
    (page page' : PageRequest) {s s₁ s₂ : Criteria} {r : Compiled Constraint} (hs : s.InUse)
    (h : c.compile Criteria.backend t object page s = .ok r s₁) (h₂ : Criteria.Changes s₁ s₂) :
    (r.constraint = .always ∨ r.constraint.Reduced) ∧
    (∃ active, t.declarations.active object = .ok active ∧
      (r.constraint = .always ↔ ∀ f ∈ active, f.1.operation.Skips f.2)) ∧
    (∀ q, s₂.finish r.constraint page' = .ok q →
      (r.constraint = .always ↔ "WHERE" ∉ bareWords s₂.dialect q.sql) ∧
      (r.constraint = .always ↔ "WHERE" ∉ bareWords s₂.dialect q.countSql)) ∧
    (r.constraint ≠ .always → ∀ d n, let words := bareWords d (r.constraint.sql d n)
      "TRUE" ∉ words ∧
      words.count "FALSE" = r.constraint.tests.countP fun test => test.2.isInNothing) := by
  obtain ⟨hk, -⟩ := compile_eq_ok_iff.1 h
  obtain ⟨fields, blocks, ps, hactive, hb, hand, rfl⟩ := constraint_eq_ok_iff.1 hk
  have hs₂ : s₂.InUse := (hs.changed hb.grown.changes).changed h₂
  have hlook : ∀ a ∈ r.constraint.operands, IsAlias a.qualifier := fun a ha =>
    (constraint_qualifiers hs.scoped.1 hk a ha).imp_right fun ⟨n, _, _, hn⟩ => ⟨n, hn⟩
  obtain ⟨hparts, hskips⟩ := hb.reduced
  obtain ⟨halways, hreduced⟩ := Constraint.reduced_and hparts
  rw [← hand] at halways hreduced
  refine ⟨hreduced, ⟨fields, hactive, halways.trans hskips⟩, fun q hq => ?_, fun hne d n => ?_⟩
  · -- Each statement says `WHERE` as often as it has a condition.
    obtain ⟨order, s₃, rfl, hdialect, hjoins, hsub, horder⟩ := hs₂.select_of_finish hq
    have hwords : ∀ text, Says s₃.dialect "WHERE" text (if r.constraint.isAlways then 0 else 1) →
        (r.constraint = .always ↔ "WHERE" ∉ bareWords s₂.dialect text) := by
      intro text htext
      rw [← hdialect, ← List.count_eq_zero, htext.count_eq, ← Constraint.isAlways_iff]
      cases r.constraint.isAlways <;> decide
    obtain ⟨hsql, hcount⟩ := says_select page' hjoins hsub hlook horder
    exact ⟨hwords _ hsql, hwords _ hcount⟩
  · -- Of the words that mean something, a constraint says its literals.
    have hliterals := (hreduced.resolve_left hne).literals_eq
    rw [List.map_const', ← List.countP_eq_length_filter] at hliterals
    have hspoken : ∀ w ∈ marks, (bareWords d (r.constraint.sql d n)).count w = _ := fun w hw =>
      (r.constraint.says_sql hw n hlook).count_eq
    constructor
    · rw [← List.count_eq_zero, hspoken "TRUE" (by decide), hliterals]
      exact List.count_replicate.trans (if_neg (by decide))
    · rw [hspoken "FALSE" (by decide), hliterals, List.count_replicate_self]

/-- A flag that is not set, an empty list and a range, of columns with misleading names. -/
def misleading : FilterType Unit := .holding "Person" [(⟨"TRUE", .isNull, ""⟩, .unset),
  (⟨"WHERE", .notIn, ""⟩, .list []), (⟨"TRUE", .outsideRange, ""⟩, .list [.int 1, .int 5])]

theorem compile_reduced_misleading : ∃ (r : Compiled Constraint) (s : Criteria) (q : SelectQuery),
    (Compiler.atEpoch .left).compile Criteria.backend misleading () {} people = .ok r s ∧
    s.finish r.constraint {} = .ok q ∧ r.constraint.Reduced ∧
    (¬ ∀ f ∈ misleading.declarations.fields.filterMap (Field.held ()), f.1.operation.Skips f.2) ∧
    "WHERE" ∈ bareWords s.dialect q.sql ∧ "WHERE" ∈ bareWords s.dialect q.countSql ∧
    "TRUE" ∉ bareWords .mySQL (r.constraint.sql .mySQL 0) ∧
    (bareWords .mySQL (r.constraint.sql .mySQL 0)).count "FALSE" = 1 := by
  obtain ⟨r, s, h, hcheck⟩ := exists_of_passes
    ((Compiler.atEpoch .left).compile Criteria.backend misleading () {} people)
    (fun r _ => !r.constraint.isAlways &&
      r.constraint.tests.countP (fun test => test.2.isInNothing) == 1) (by decide +kernel)
  rw [Bool.and_eq_true, Bool.not_eq_true', beq_iff_eq] at hcheck
  obtain ⟨hsome, hempty⟩ := hcheck
  have hne : r.constraint ≠ .always := fun heq => by simp [heq, Constraint.isAlways] at hsome
  obtain ⟨hreduced, ⟨active, hactive, hskips⟩, hwhere, hliterals⟩ :=
    compile_reduced _ _ _ _ {} ⟨people, rfl, .refl⟩ h .refl
  obtain ⟨q, hq⟩ : ∃ q, s.finish r.constraint {} = .ok q := ⟨_, rfl⟩
  obtain ⟨-, rfl⟩ := Declarations.active_eq_ok_iff.1 hactive
  obtain ⟨hsql, hcount⟩ := hwhere q hq
  obtain ⟨htrue, hfalse⟩ := hliterals hne .mySQL 0
  exact ⟨r, s, q, h, hq, hreduced.resolve_left hne, fun hall => hne (hskips.2 hall),
    Classical.not_not.1 fun hno => hne (hsql.2 hno),
    Classical.not_not.1 fun hno => hne (hcount.2 hno), htrue, hfalse.trans hempty⟩

end FilterQuery

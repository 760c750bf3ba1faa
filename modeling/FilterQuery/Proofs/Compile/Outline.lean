import FilterQuery.Proofs.Compile.Fields
import FilterQuery.Proofs.Rows.Truth

/-!
# Outlines of constraints

What is left of a constraint without its values: which values are null, and how many there are.

* `Test.outline`, `Clause.outline`, `Constraint.outline`;
* **`Constraint.sql_outline`**, `Constraint.length_params_outline`: the text and the number of bound
  values depend on no more.
-/

namespace FilterQuery

open Sql

/-- A test without its values. Whether a comparison is with null stays, and the length of a list. -/
def Test.outline : Test → Test
  | compare c v => compare c (if v.isNull then .null else .bool true)
  | like _ => like ""
  | isIn vs => isIn (vs.map fun _ => .null)
  | between _ _ => between .null .null
  | isNull => isNull
  | isNotNull => isNotNull

/-- A combination of tests without their values. -/
def Shape.outline : Shape → Shape
  | always => always
  | passes t => passes t.outline
  | fails t => fails t.outline
  | both t u => both t.outline u.outline
  | either t u => either t.outline u.outline

/-- A clause without its values. -/
def Clause.outline (c : Clause) : Clause := ⟨c.view, c.shape.outline⟩

namespace Sql.Constraint

mutual

/-- A constraint without its values. -/
def outline : Constraint → Constraint
  | always => always
  | test a t => test a t.outline
  | all cs => all (outlines cs)
  | any cs => any (outlines cs)
  | neg c => neg c.outline

/-- Constraints in a row without their values. -/
def outlines : List Constraint → List Constraint
  | [] => []
  | c :: cs => c.outline :: outlines cs

end

theorem outlines_eq (cs : List Constraint) : outlines cs = cs.map outline := by
  induction cs with
  | nil => rfl
  | cons c cs ih => rw [outlines, ih, List.map_cons]

theorem testSql_outline (d : Dialect) (n : Nat) (operand : String) (t : Test) :
    testSql d n operand t.outline = testSql d n operand t := by
  cases t with
  | compare c v => cases c <;> cases v <;> rfl
  | isIn vs => cases vs <;> simp [Test.outline, testSql]
  | like | between | isNull | isNotNull => rfl

theorem length_testParams_outline (t : Test) :
    (testParams t.outline).length = (testParams t).length := by
  cases t with
  | compare c v => cases c <;> cases v <;> rfl
  | isIn vs => simp [Test.outline, testParams, Test.values]
  | like | between | isNull | isNotNull => rfl

mutual

theorem length_params_outline : ∀ k : Constraint, k.outline.params.length = k.params.length
  | always => rfl
  | test _ t => length_testParams_outline t
  | all cs | any cs => length_paramsOf_outlines cs
  | neg k => length_params_outline k

theorem length_paramsOf_outlines : ∀ cs : List Constraint,
    (paramsOf (outlines cs)).length = (paramsOf cs).length
  | [] => rfl
  | c :: cs => by
    have hc := length_params_outline c
    have hcs := length_paramsOf_outlines cs
    simp only [outlines, paramsOf, List.length_append, hc, hcs]

end

mutual

/-- **The text of a constraint depends on its outline only.** -/
theorem sql_outline (d : Dialect) (n : Nat) : ∀ k : Constraint, k.outline.sql d n = k.sql d n
  | always => rfl
  | test a t => testSql_outline d n (a.sql d) t
  | all [] | any [] => rfl
  | all (c :: cs) | any (c :: cs) => by
    have h := sqlOf_outlines d n (c :: cs)
    rw [outlines] at h
    simp only [outline, outlines, sql, h]
  | neg k => by
    have h := sql_outline d n k
    simp only [outline, sql, h]

theorem sqlOf_outlines (d : Dialect) (n : Nat) : ∀ cs : List Constraint,
    sqlOf d n (outlines cs) = sqlOf d n cs
  | [] => rfl
  | c :: cs => by
    have hc := sql_outline d n c
    have hcs := sqlOf_outlines d (n + c.params.length) cs
    simp only [outlines, sqlOf, length_params_outline, hc, hcs]

end

theorem isAlways_outline (k : Constraint) : k.outline.isAlways = k.isAlways := by
  cases k <;> rfl

theorem outline_and (cs : List Constraint) :
    (Constraint.and cs).outline = .and (cs.map outline) :=
  map_and rfl isAlways_outline (fun cs => congrArg all (outlines_eq cs)) cs

variable {k l : Constraint}

theorem sql_eq_of_outline (h : k.outline = l.outline) (d : Dialect) (n : Nat) :
    k.sql d n = l.sql d n := by
  rw [← sql_outline, h, sql_outline]

theorem length_params_of_outline (h : k.outline = l.outline) :
    k.params.length = l.params.length := by
  rw [← length_params_outline, h, length_params_outline]

theorem isAlways_of_outline (h : k.outline = l.outline) : k.isAlways = l.isAlways := by
  rw [← isAlways_outline, h, isAlways_outline]

end Sql.Constraint

theorem Clause.outline_constraint (a : Operand) (c : Clause) :
    (c.constraint a).outline = c.outline.constraint a := by
  obtain ⟨view, shape⟩ := c
  cases shape <;> rfl

end FilterQuery

import FilterQuery.Comparison
import FilterQuery.Sql.Operand
import FilterQuery.Text.Split

/-!
# Constraints

Boolean expressions over tests of operands, and their SQL with placeholders for values.

* `Constraint`, and the constructors `Constraint.and`, `Constraint.or`, `Constraint.andThen`, which
  leave out what has no effect;
* `Constraint.sql`, `Constraint.params`: the text, and the values to bind in the order of the
  placeholders.
-/

namespace FilterQuery.Sql

/-- A boolean expression over tests. -/
inductive Constraint where
  /-- True of every row. -/
  | always
  | test (a : Operand) (t : Test)
  | all (cs : List Constraint)
  | any (cs : List Constraint)
  | neg (c : Constraint)
deriving Repr, Inhabited

namespace Constraint

def isAlways : Constraint → Bool
  | always => true
  | _ => false

/-! ## Combining -/

/-- All of the constraints. Those that are always true have no effect. -/
def and (cs : List Constraint) : Constraint :=
  match cs.filter (!·.isAlways) with
  | [] => always
  | [c] => c
  | cs => all cs

/-- One of the constraints, or no constraint if there is none to choose from. -/
def or (cs : List Constraint) : Constraint :=
  if cs.any isAlways then always
  else match cs with
    | [] => always
    | [c] => c
    | cs => any cs

/-- Both constraints; a conjunction on the left is extended. -/
def andThen (c d : Constraint) : Constraint :=
  match c, d with
  | always, d => d
  | c, always => c
  | all cs, d => all (cs ++ [d])
  | c, d => all [c, d]

/-! ## SQL -/

/-- Placeholders for `count` parameters after the first `bound`. -/
def placeholders (d : Dialect) (bound : Nat) : Nat → List String
  | 0 => []
  | count + 1 => d.placeholder (bound + 1) :: placeholders d (bound + 1) count

/-- The values that a test binds. A comparison with null binds none, nor does an empty list. -/
def testParams : Test → List Value
  | .compare .eq .null => []
  | .compare .ne .null => []
  | t => t.values

/-- A test of an operand that is already written, after `bound` parameters. -/
def testSql (d : Dialect) (bound : Nat) (operand : String) : Test → String
  | .compare .eq .null => operand ++ " IS NULL"
  | .compare .ne .null => operand ++ " IS NOT NULL"
  | .compare c _ => operand ++ " " ++ c.sign ++ " " ++ d.placeholder (bound + 1)
  | .like _ => operand ++ " LIKE " ++ d.placeholder (bound + 1)
  | .isIn [] => "FALSE"
  | .isIn vs => operand ++ " IN (" ++ Text.joined ", " (placeholders d bound vs.length) ++ ")"
  | .between _ _ =>
    operand ++ " BETWEEN " ++ d.placeholder (bound + 1) ++ " AND " ++ d.placeholder (bound + 2)
  | .isNull => operand ++ " IS NULL"
  | .isNotNull => operand ++ " IS NOT NULL"

mutual

/-- The values to bind, in order. -/
def params : Constraint → List Value
  | always => []
  | test _ t => testParams t
  | all cs => paramsOf cs
  | any cs => paramsOf cs
  | neg c => c.params

/-- The values to bind for constraints in a row. -/
def paramsOf : List Constraint → List Value
  | [] => []
  | c :: cs => c.params ++ paramsOf cs

end

mutual

/-- The constraint in a dialect, after `bound` parameters. -/
def sql (d : Dialect) (bound : Nat) : Constraint → String
  | always => "TRUE"
  | test a t => testSql d bound (a.sql d) t
  | all [] => "TRUE"
  | all cs => "(" ++ Text.joined " AND " (sqlOf d bound cs) ++ ")"
  | any [] => "FALSE"
  | any cs => "(" ++ Text.joined " OR " (sqlOf d bound cs) ++ ")"
  | neg c => "NOT (" ++ c.sql d bound ++ ")"

/-- Constraints in a row, each after the parameters of those before it. -/
def sqlOf (d : Dialect) (bound : Nat) : List Constraint → List String
  | [] => []
  | c :: cs => c.sql d bound :: sqlOf d (bound + c.params.length) cs

end

end Constraint

end FilterQuery.Sql

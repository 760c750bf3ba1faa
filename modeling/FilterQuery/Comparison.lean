import FilterQuery.Value

/-!
# Tests of an attribute

* `Comparison`: the six comparisons with a value;
* `Test`: what a predicate asks of one attribute; `Test.values` are the values it compares with.
-/

namespace FilterQuery

/-- How an attribute is compared with a value. -/
inductive Comparison where
  | eq
  | ne
  | lt
  | le
  | gt
  | ge
deriving DecidableEq, Repr

namespace Comparison

def all : List Comparison := [eq, ne, lt, le, gt, ge]

def name : Comparison → String
  | eq => "eq"
  | ne => "ne"
  | lt => "lt"
  | le => "lte"
  | gt => "gt"
  | ge => "gte"

/-- The sign of a comparison. -/
def sign : Comparison → String
  | eq => "="
  | ne => "<>"
  | lt => "<"
  | le => "<="
  | gt => ">"
  | ge => ">="

end Comparison

/-- What is asked of one attribute. -/
inductive Test where
  | compare (c : Comparison) (v : Value)
  /-- The text fits a pattern, in which `%` stands for any text. -/
  | like (pattern : String)
  | isIn (vs : List Value)
  /-- Within a range, its ends included. -/
  | between (low high : Value)
  | isNull
  | isNotNull
deriving Repr

/-- The name of a test, without its values. -/
def Test.name : Test → String
  | compare c _ => c.name
  | like _ => "like"
  | isIn _ => "in"
  | between _ _ => "between"
  | isNull => "is_null"
  | isNotNull => "is_not_null"

/-- The values that a test compares with, in order. -/
def Test.values : Test → List Value
  | compare _ v => [v]
  | like pattern => [.text pattern]
  | isIn vs => vs
  | between low high => [low, high]
  | isNull => []
  | isNotNull => []

end FilterQuery

import FilterQuery.Error
import FilterQuery.Text.Lowercase

/-!
# Kinds of joins

* `JoinType`: whether rows without a related row are kept;
* `JoinType.name`, `JoinType.read`, `JoinType.keyword`.
-/

namespace FilterQuery

/-- What a join does with rows that have no related row. -/
inductive JoinType where
  /-- They are kept. -/
  | left
  /-- They are dropped. -/
  | inner
deriving DecidableEq, Repr, Inhabited

namespace JoinType

def all : List JoinType := [left, inner]

def name : JoinType → String
  | left => "left"
  | inner => "inner"

/-- The words of SQL. -/
def keyword : JoinType → String
  | left => "LEFT JOIN"
  | inner => "INNER JOIN"

/-- The join type with exactly this name. -/
def ofName? (s : String) : Option JoinType := all.find? fun t => t.name == s

/-- The join type that a text names, in any ASCII case. -/
def read (s : String) : Except QueryError JoinType :=
  let lower := Text.asciiLowercase s
  if lower = "left" ∨ lower = "left_outer" then .ok left
  else if lower = "inner" then .ok inner
  else .error (.invalidConfiguration
    ("Unknown join type '" ++ lower ++ "', expected 'left' or 'inner'"))

end JoinType

end FilterQuery

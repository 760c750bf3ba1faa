import FilterQuery.Sql.Identifier

/-!
# Operands

* `Operand`: a column of the root table or of a join, under functions;
* `Operand.sql`.
-/

namespace FilterQuery.Sql

/-- What a constraint compares. -/
inductive Operand where
  /-- A column, qualified by the alias of its table. -/
  | column (qualifier name : String)
  | lower (inner : Operand)
  /-- The operand read as an instant. -/
  | instant (inner : Operand)
  /-- The number of items of a collection. -/
  | size (inner : Operand)
deriving DecidableEq, Repr, Inhabited

namespace Operand

/-- Reading a text as an instant. -/
def castInstant (inner : String) : Dialect → String
  | .postgreSQL => "CAST(" ++ inner ++ " AS TIMESTAMPTZ)"
  | .mySQL => "CAST(" ++ inner ++ " AS DATETIME)"
  | .sqLite => "datetime(" ++ inner ++ ")"

/-- The function that counts the items of a collection. -/
def sizeFunction : Dialect → String
  | .postgreSQL => "CARDINALITY"
  | .mySQL => "JSON_LENGTH"
  | .sqLite => "json_array_length"

/-- The operand in a dialect. -/
def sql (d : Dialect) : Operand → String
  | column qualifier name => qualifier ++ "." ++ identifier d name
  | lower inner => "LOWER(" ++ inner.sql d ++ ")"
  | instant inner => castInstant (inner.sql d) d
  | size inner => sizeFunction d ++ "(" ++ inner.sql d ++ ")"

end Operand

end FilterQuery.Sql

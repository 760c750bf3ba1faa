import FilterQuery.Error
import FilterQuery.Text.Blank
import FilterQuery.Text.Lowercase

/-!
# Operators

The twenty-six operators that a filter field can be declared with.

* `Operation`, `Operation.all`;
* `Operation.name`, `Operation.read`: names in capitals, read in any ASCII case and with blanks
  around them;
* `Operation.expects`: the input that an operator takes, in words.
-/

namespace FilterQuery

/-- What a field demands of its attribute. -/
inductive Operation where
  | equal
  | notEqual
  /-- The attribute contains the text, in any case of letters. -/
  | like
  | notLike
  | startsWith
  | endsWith
  | greaterThan
  | greaterOrEqual
  | lessThan
  | lessOrEqual
  | isIn
  | notIn
  /-- Within a range, its ends included. -/
  | between
  | notBetween
  | betweenExclusive
  | outsideRange
  /-- On one calendar day of universal time. -/
  | onDate
  | inLastDays
  | inNextDays
  | sizeEq
  | sizeGt
  | sizeLt
  /-- True, whatever the input is. -/
  | isTrue
  /-- False, whatever the input is. -/
  | isFalse
  /-- Null, if the input is a set flag. -/
  | isNull
  | isNotNull
deriving DecidableEq, Repr

namespace Operation

/-- Every operator, in order. -/
def all : List Operation :=
  [equal, notEqual, like, notLike, startsWith, endsWith, greaterThan, greaterOrEqual, lessThan,
    lessOrEqual, isIn, notIn, between, notBetween, betweenExclusive, outsideRange, onDate,
    inLastDays, inNextDays, sizeEq, sizeGt, sizeLt, isTrue, isFalse, isNull, isNotNull]

/-- The name of an operator. -/
def name : Operation → String
  | equal => "EQUAL"
  | notEqual => "NOT_EQUAL"
  | like => "LIKE"
  | notLike => "NOT_LIKE"
  | startsWith => "STARTS_WITH"
  | endsWith => "ENDS_WITH"
  | greaterThan => "GREATER_THAN"
  | greaterOrEqual => "GREATER_OR_EQUAL"
  | lessThan => "LESS_THAN"
  | lessOrEqual => "LESS_OR_EQUAL"
  | isIn => "IN"
  | notIn => "NOT_IN"
  | between => "BETWEEN"
  | notBetween => "NOT_BETWEEN"
  | betweenExclusive => "BETWEEN_EXCLUSIVE"
  | outsideRange => "OUTSIDE_RANGE"
  | onDate => "ON_DATE"
  | inLastDays => "IN_LAST_DAYS"
  | inNextDays => "IN_NEXT_DAYS"
  | sizeEq => "SIZE_EQ"
  | sizeGt => "SIZE_GT"
  | sizeLt => "SIZE_LT"
  | isTrue => "IS_TRUE"
  | isFalse => "IS_FALSE"
  | isNull => "IS_NULL"
  | isNotNull => "IS_NOT_NULL"

/-- The input that an operator takes, for messages. -/
def expects : Operation → String
  | equal | notEqual => "a scalar value"
  | like | notLike | startsWith | endsWith => "a string"
  | greaterThan | greaterOrEqual | lessThan | lessOrEqual =>
    "an ordered scalar (number, string, date or instant)"
  | isIn | notIn => "a list of scalar values"
  | between | notBetween | betweenExclusive | outsideRange => "a two-element [start, end] range"
  | onDate => "a date"
  | inLastDays | inNextDays => "a non-negative number of days"
  | sizeEq | sizeGt | sizeLt => "a non-negative integer"
  | isTrue | isFalse => "any non-null value"
  | isNull | isNotNull => "a boolean flag"

/-- The operator with exactly this name. -/
def ofName? (s : String) : Option Operation := all.find? fun op => op.name == s

/-- The operator that a text names, in any ASCII case and with blanks around it. -/
def read (s : String) : Except QueryError Operation :=
  match ofName? (Text.asciiUppercase (Text.trim s)) with
  | some op => .ok op
  | none => .error {
      code := .invalidFilter
      message := "Unknown filter operator '" ++ s ++ "'" }

theorem mem_all (op : Operation) : op ∈ all := by cases op <;> decide

theorem ofName?_name (op : Operation) : ofName? op.name = some op := by cases op <;> decide

end Operation

end FilterQuery

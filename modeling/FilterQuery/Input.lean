import FilterQuery.Calendar.Reader
import FilterQuery.Error
import FilterQuery.Value

/-!
# Inputs of a filter field

The value that a declared field holds: one value, a list, or a range with two comparable ends.

* `Range`, `Range.of`, `Range.ofList`: a pair of values of one family;
* `Input`, `Input.describe`;
* `readTemporal`: a text that is a date or an instant, read as such.
-/

namespace FilterQuery

/-- Both values belong to one family. -/
def comparable (a b : Value) : Bool := a.isOrdered && a.family? == b.family?

/-- Two ends that can be compared with each other, in whichever order. -/
structure Range where
  start : Value
  stop : Value
  ends_comparable : comparable start stop = true

namespace Range

/-- The range between two values. -/
def of (start stop : Value) : Except QueryError Range :=
  if h : comparable start stop = true then .ok ⟨start, stop, h⟩
  else .error {
    code := .invalidFilterValue
    message := "Range endpoints must be two comparable values, found " ++ start.kind ++ " and " ++
      stop.kind }

/-- The range between the two values of a list. -/
def ofList : List Value → Except QueryError Range
  | [start, stop] => of start stop
  | vs => .error {
      code := .invalidFilterValue
      message := "Range needs exactly two values, found " ++ toString vs.length }

def isTemporal (r : Range) : Bool := r.start.family? == some .temporal

/-- Both ends are dates. -/
def isDatePair (r : Range) : Bool :=
  match r.start, r.stop with
  | .date _, .date _ => true
  | _, _ => false

/-- At least one end is a date. -/
def hasDate (r : Range) : Bool :=
  match r.start, r.stop with
  | .date _, _ => true
  | _, .date _ => true
  | _, _ => false

end Range

/-- What a field of a filter holds. -/
inductive Input where
  | scalar (v : Value)
  | list (vs : List Value)
  | range (r : Range)

namespace Input

/-- The input carries no value. -/
def isNull : Input → Bool
  | scalar .null => true
  | _ => false

/-- What the input is, for messages. -/
def describe : Input → String
  | scalar v => v.kind
  | list vs => "list of " ++ toString vs.length
  | range r => r.start.kind ++ " range"

end Input

/-- A text in the form of a date or an instant as that; other values as they are. -/
def readTemporal : Value → Value
  | .text s =>
    match Date.read? s with
    | some d => .date d
    | none =>
      match Instant.read? s with
      | some t => .instant t
      | none => .text s
  | v => v

end FilterQuery

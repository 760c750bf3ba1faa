import FilterQuery.Calendar.Written
import FilterQuery.Json.Basic

/-!
# Values

What a filter compares with: scalars of the kinds a database knows, JSON documents and lists.

* `Value`, `Value.kind`, `Value.isOrdered`;
* `Family`, `Value.family?`: the kinds that can be compared with each other in a range;
* `Value.ofJson`, `Value.toJson`: JSON carries no dates, so they become text, and no infinities, so
  they become null.
-/

namespace FilterQuery

/-- A value of a comparison. -/
inductive Value where
  | null
  | bool (b : Bool)
  | int (n : Int64)
  | float (x : Double)
  | text (s : String)
  | date (d : Date)
  | instant (t : Instant)
  | json (j : Json)
  | list (vs : List Value)
deriving Repr, Inhabited

/-- Kinds that can be compared with each other. -/
inductive Family where
  | numeric
  | text
  | temporal
deriving DecidableEq, Repr

namespace Value

/-- The name of a kind, for messages. -/
def kind : Value → String
  | null => "null"
  | bool _ => "bool"
  | int _ => "int"
  | float _ => "float"
  | text _ => "string"
  | date _ => "date"
  | instant _ => "datetime"
  | json _ => "json"
  | list _ => "list"

def isNull : Value → Bool
  | null => true
  | _ => false

/-- The family of a value, if it can end a range. -/
def family? : Value → Option Family
  | int _ | float _ => some .numeric
  | text _ => some .text
  | date _ | instant _ => some .temporal
  | _ => none

/-- Values of this kind are in order, so that greater and less mean something. -/
def isOrdered (v : Value) : Bool := v.family?.isSome

/-- A JSON value as a value. Integers beyond 64 bits with sign become doubles; containers stay
JSON. -/
def ofJson : Json → Value
  | .null => null
  | .bool b => bool b
  | .int n =>
    if -Int.pow 2 63 ≤ n ∧ n < Int.pow 2 63 then int (Int64.ofInt n) else float (Double.ofInt n)
  | .float x => float x
  | .str s => text s
  | j => json j

mutual

/-- A value in JSON. Dates and instants become their written forms, and a double that is not finite
becomes null. -/
def toJson : Value → Json
  | null => .null
  | bool b => .bool b
  | int n => .int n.toInt
  | float x => if x.isFinite then .float x else .null
  | text s => .str s
  | date d => .str d.text
  | instant t => .str t.text
  | json j => j
  | list vs => .arr (toJsonItems vs)

def toJsonItems : List Value → List Json
  | [] => []
  | v :: rest => v.toJson :: toJsonItems rest

end

end Value

end FilterQuery

import FilterQuery.Backend.Basic
import FilterQuery.Input
import FilterQuery.Operation

/-!
# The predicate of a field

An operator and its input say what is asked of an attribute: a view of the attribute, and tests on
that view.

* `Clause`: a view and a combination of tests;
* `Operation.clause`: the clause of an operator and an input, or what is wrong with the input;
* `Operation.build`: the predicate that a backend makes of it.
-/

namespace FilterQuery

/-- What the predicates of one compilation share. -/
structure PredicateContext where
  /-- The instant from which day windows are measured. -/
  now : Instant
  /-- The longest list that a membership operator takes. -/
  maxListLen : Nat

/-- How an attribute is looked at. -/
inductive View where
  | plain
  | lower
  | instant
deriving DecidableEq, Repr

/-- A combination of tests of one attribute. -/
inductive Shape where
  | always
  | passes (t : Test)
  | fails (t : Test)
  | both (t u : Test)
  | either (t u : Test)
deriving Repr

/-- A combination of tests of a view of an attribute. -/
structure Clause where
  view : View
  shape : Shape
deriving Repr

/-- The tests of a clause, in order. -/
def Shape.tests : Shape → List Test
  | always => []
  | passes t => [t]
  | fails t => [t]
  | both t u => [t, u]
  | either t u => [t, u]

namespace Operation

/-! ## Reading inputs -/

/-- The input does not fit the operator. -/
def reject {α : Type} (op : Operation) (found : String) : Except QueryError α :=
  .error (.invalidValue op.name op.expects found)

/-- One value, neither a list nor null. -/
def scalar (op : Operation) : Input → Except QueryError Value
  | .scalar (.list vs) => op.reject (Input.scalar (.list vs)).describe
  | .scalar .null => op.reject (Input.scalar .null).describe
  | .scalar v => .ok v
  | input => op.reject input.describe

/-- A text, in lower case. Signs with a meaning in patterns are kept. -/
def pattern (op : Operation) : Input → Except QueryError String
  | .scalar (.text s) => .ok (Text.lowercase s)
  | input => op.reject input.describe

/-- A value with an order. A date stands for the instant at which it starts. -/
def bound (op : Operation) : Input → Except QueryError (View × Value)
  | .scalar (.date d) => .ok (.instant, .instant d.start)
  | .scalar v => if v.isOrdered then .ok (.plain, v) else op.reject (Input.scalar v).describe
  | input => op.reject input.describe

/-- A list within the limit. -/
def members (op : Operation) (ctx : PredicateContext) : Input → Except QueryError (List Value)
  | .list vs => limited vs
  | .scalar (.list vs) => limited vs
  | input => op.reject input.describe
where
  limited (vs : List Value) : Except QueryError (List Value) :=
    if ctx.maxListLen < vs.length then
      .error ((QueryError.invalidValue op.name op.expects
        ("list of " ++ toString vs.length ++ " (limit " ++ toString ctx.maxListLen ++ ")")).withHelp
          "Raise max_list_len in CompilerConfig or narrow the filter")
    else .ok vs

/-- A range, or a list of the two ends of one. -/
def range (op : Operation) : Input → Except QueryError Range
  | .range r => .ok r
  | .list vs => (Range.ofList vs).mapError (·.withOperation op.name)
  | .scalar (.list vs) => (Range.ofList vs).mapError (·.withOperation op.name)
  | input => op.reject input.describe

/-- A date as the instant at which it starts, other values as they are. -/
def startOfDate : Value → Value
  | .date d => .instant d.start
  | v => v

/-- The ends of a range. In one that holds a date both are instants. -/
def ends (op : Operation) (input : Input) : Except QueryError (View × Value × Value) := do
  let r ← op.range input
  if r.isTemporal && r.hasDate then
    return (.instant, startOfDate r.start, startOfDate r.stop)
  else return (.plain, r.start, r.stop)

/-- A date, or the date of an instant. -/
def date (op : Operation) : Input → Except QueryError Date
  | .scalar (.date d) => .ok d
  | .scalar (.instant t) => .ok t.date
  | input => op.reject input.describe

/-- A whole number, zero or more. -/
def count (op : Operation) : Input → Except QueryError Int64
  | .scalar (.int n) => if 0 ≤ n.toInt then .ok n else op.reject (toString n.toInt)
  | input => op.reject input.describe

/-- The longest window, in days, whose milliseconds a signed 64-bit number holds. -/
def maxWindow : Int := 106751991167

/-- The length of a window in days. -/
def window (op : Operation) (input : Input) : Except QueryError Int := do
  let n ← op.count input
  if n.toInt ≤ maxWindow then return n.toInt else op.reject (toString n.toInt ++ " days")

/-- The instant some days away, for a window of `days`. -/
def windowEnd (op : Operation) (days : Int) (moved : Option Instant) : Except QueryError Instant :=
  match moved with
  | some t => .ok t
  | none => op.reject (toString days ++ " days, out of the representable range")

/-- A flag. -/
def flag (op : Operation) : Input → Except QueryError Bool
  | .scalar (.bool b) => .ok b
  | input => op.reject input.describe

/-! ## Clauses -/

/-- The attribute is in an order with a bound. -/
def ordering (op : Operation) (c : Comparison) (input : Input) : Except QueryError Clause := do
  let (view, v) ← op.bound input
  return ⟨view, .passes (.compare c v)⟩

/-- The attribute lies within or outside a range. -/
def ranging (op : Operation) (shape : Value → Value → Shape) (input : Input) :
    Except QueryError Clause := do
  let (view, start, stop) ← op.ends input
  return ⟨view, shape start stop⟩

/-- A null test that only a set flag demands. -/
def flagged (op : Operation) (t : Test) (input : Input) : Except QueryError Clause := do
  if ← op.flag input then return ⟨.plain, .passes t⟩ else return ⟨.plain, .always⟩

/-- What an operator with an input asks of an attribute. -/
def clause (ctx : PredicateContext) (op : Operation) (input : Input) : Except QueryError Clause :=
  match op with
  | equal => do return ⟨.plain, .passes (.compare .eq (← op.scalar input))⟩
  | notEqual => do return ⟨.plain, .passes (.compare .ne (← op.scalar input))⟩
  | like => do return ⟨.lower, .passes (.like ("%" ++ (← op.pattern input) ++ "%"))⟩
  | notLike => do return ⟨.lower, .fails (.like ("%" ++ (← op.pattern input) ++ "%"))⟩
  | startsWith => do return ⟨.lower, .passes (.like ((← op.pattern input) ++ "%"))⟩
  | endsWith => do return ⟨.lower, .passes (.like ("%" ++ (← op.pattern input)))⟩
  | greaterThan => op.ordering .gt input
  | greaterOrEqual => op.ordering .ge input
  | lessThan => op.ordering .lt input
  | lessOrEqual => op.ordering .le input
  | isIn => do return ⟨.plain, .passes (.isIn (← op.members ctx input))⟩
  | notIn => do return ⟨.plain, .fails (.isIn (← op.members ctx input))⟩
  | between => op.ranging (fun start stop => .passes (.between start stop)) input
  | notBetween => op.ranging (fun start stop => .fails (.between start stop)) input
  | betweenExclusive =>
    op.ranging (fun start stop => .both (.compare .gt start) (.compare .lt stop)) input
  | outsideRange =>
    op.ranging (fun start stop => .either (.compare .lt start) (.compare .gt stop)) input
  | onDate => do
    let day ← op.date input
    match day.next? with
    | none => op.reject day.text
    | some next =>
      return ⟨.instant,
        .both (.compare .ge (.instant day.start)) (.compare .lt (.instant next.start))⟩
  | inLastDays => do
    let days ← op.window input
    let start ← op.windowEnd days (ctx.now.addDays? (-days))
    return ⟨.instant, .passes (.between (.instant start) (.instant ctx.now))⟩
  | inNextDays => do
    let days ← op.window input
    let stop ← op.windowEnd days (ctx.now.addDays? days)
    return ⟨.instant, .passes (.between (.instant ctx.now) (.instant stop))⟩
  | sizeEq => do return ⟨.plain, .passes (.compare .eq (.int (← op.count input)))⟩
  | sizeGt => do return ⟨.plain, .passes (.compare .gt (.int (← op.count input)))⟩
  | sizeLt => do return ⟨.plain, .passes (.compare .lt (.int (← op.count input)))⟩
  | isTrue => .ok ⟨.plain, .passes (.compare .eq (.bool true))⟩
  | isFalse => .ok ⟨.plain, .passes (.compare .eq (.bool false))⟩
  | isNull => op.flagged .isNull input
  | isNotNull => op.flagged .isNotNull input

/-- The operator counts the items of a collection. -/
def countsItems : Operation → Bool
  | sizeEq | sizeGt | sizeLt => true
  | _ => false

end Operation

/-! ## Predicates -/

section Build

variable {State Attr Join Pred : Type} (b : Backend State Attr Join Pred)

/-- An attribute in a view. -/
def View.of (s : State) (a : Attr) : View → Attr
  | plain => a
  | lower => b.lower s a
  | instant => b.asInstant s a

/-- The predicate of a combination of tests. -/
def Shape.build (a : Attr) (shape : Shape) (s : State) : Pred × State :=
  match shape with
  | always => (b.always s, s)
  | passes t => b.test a t s
  | fails t =>
    let (p, s) := b.test a t s
    (b.neg s p, s)
  | both t u =>
    let (ps, s) := b.tests a [t, u] s
    (b.all s ps, s)
  | either t u =>
    let (ps, s) := b.tests a [t, u] s
    (b.any s ps, s)

/-- The predicate of a clause. -/
def Clause.build (a : Attr) (c : Clause) (s : State) : Pred × State :=
  c.shape.build b (c.view.of b s a) s

/-- What an operator looks at: the number of items of a collection, or the attribute itself. -/
def Operation.target (op : Operation) (a : Attr) (s : State) : Except QueryError Attr :=
  if op.countsItems then (b.size s a).mapError (·.withOperation op.name) else .ok a

/-- The predicate that an operator with an input makes of an attribute. -/
def Operation.build (ctx : PredicateContext) (op : Operation) (a : Attr) (input : Input) :
    EStateM QueryError State Pred := fun s =>
  match op.target b a s with
  | .error e => .error e s
  | .ok a =>
    match op.clause ctx input with
    | .error e => .error e s
    | .ok c => .ok (c.build b a s).1 (c.build b a s).2

end Build

end FilterQuery

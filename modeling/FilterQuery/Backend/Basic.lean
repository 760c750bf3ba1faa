import FilterQuery.Comparison
import FilterQuery.Error
import FilterQuery.JoinType

/-!
# Backends

What a compiler needs of the storage behind it. A backend resolves names to attributes, joins
relations and puts predicates together; the compiler sees neither its attributes nor its predicates.

* `Backend`: the operations. Those that resolve names and join relations may be refused and may
  change the state, the size of a collection may be refused, the others always succeed.
-/

namespace FilterQuery

/-- The operations of a storage backend on its own attributes, joins and predicates. -/
structure Backend (State Attr Join Pred : Type) where
  /-- An attribute of the root. -/
  rootAttr : String → EStateM QueryError State Attr
  /-- An attribute of a joined relation. -/
  joinAttr : Join → String → EStateM QueryError State Attr
  /-- Join a relation of the root. -/
  joinRoot : String → JoinType → EStateM QueryError State Join
  /-- Join a relation of a joined relation. -/
  joinFrom : Join → String → JoinType → EStateM QueryError State Join
  /-- The attribute in lower case. -/
  lower : State → Attr → Attr
  /-- The attribute read as an instant. -/
  asInstant : State → Attr → Attr
  /-- The number of items of a collection. -/
  size : State → Attr → Except QueryError Attr
  /-- The predicate that an attribute passes a test. -/
  test : Attr → Test → State → Pred × State
  /-- All of the predicates hold. -/
  all : State → List Pred → Pred
  /-- One of the predicates holds. -/
  any : State → List Pred → Pred
  /-- The predicate does not hold. -/
  neg : State → Pred → Pred
  /-- The predicate that always holds. -/
  always : State → Pred := fun s => all s []

namespace Backend

variable {State Attr Join Pred : Type}

/-- The predicates that one attribute passes tests, built one after the other. -/
def tests (b : Backend State Attr Join Pred) (a : Attr) :
    List Test → State → List Pred × State
  | [], s => ([], s)
  | t :: rest, s =>
    let first := b.test a t s
    let others := b.tests a rest first.2
    (first.1 :: others.1, others.2)

end Backend

end FilterQuery

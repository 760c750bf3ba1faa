import FilterQuery.Backend.Basic

/-!
# Watching a backend

A backend may be watched while it is in use: beside its state a list of notes is kept, and each call
that can change the state adds to it. What the backend answers does not change.

* `Call`: the calls that can change the state;
* `Watched`, `watch`: a state with notes, and a call that adds notes by its outcome;
* `Backend.watched`.
-/

namespace FilterQuery

/-- A call that can change the state of a backend. -/
inductive Call (Attr Join : Type) where
  | rootAttr (name : String)
  | joinAttr (join : Join) (name : String)
  | joinRoot (name : String) (type : JoinType)
  | joinFrom (parent : Join) (name : String) (type : JoinType)
  | test (a : Attr) (t : Test)
deriving Repr

/-- A state with notes, in order. -/
abbrev Watched (State Note : Type) : Type := State × List Note

section

variable {State Attr Join Pred Note α : Type}

/-- A call that adds notes, which depend on whether it succeeds. -/
def watch (notes : Bool → List Note) (call : EStateM QueryError State α) :
    EStateM QueryError (Watched State Note) α := fun s =>
  match call s.1 with
  | .ok a s' => .ok a (s', s.2 ++ notes true)
  | .error e s' => .error e (s', s.2 ++ notes false)

/-- A backend that notes its calls and whether they succeed. -/
def Backend.watched (b : Backend State Attr Join Pred) (notes : Call Attr Join → Bool → List Note) :
    Backend (Watched State Note) Attr Join Pred where
  rootAttr := fun name => watch (notes (.rootAttr name)) (b.rootAttr name)
  joinAttr := fun join name => watch (notes (.joinAttr join name)) (b.joinAttr join name)
  joinRoot := fun name type => watch (notes (.joinRoot name type)) (b.joinRoot name type)
  joinFrom := fun parent name type =>
    watch (notes (.joinFrom parent name type)) (b.joinFrom parent name type)
  lower := fun s => b.lower s.1
  asInstant := fun s => b.asInstant s.1
  size := fun s => b.size s.1
  test := fun a t s => ((b.test a t s.1).1, ((b.test a t s.1).2, s.2 ++ notes (.test a t) true))
  all := fun s => b.all s.1
  any := fun s => b.any s.1
  neg := fun s => b.neg s.1
  always := fun s => b.always s.1

end

end FilterQuery

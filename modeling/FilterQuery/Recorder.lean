import FilterQuery.Backend.Watched

/-!
# A recording backend

A backend whose attributes and joins are their own descriptions and whose predicates are trees. It
records the calls, and can be told to refuse names.

* `Recorder.Vocabulary`, `Recorder.Tree`, `Recorder.describing`: the backend without the record;
* `Recorder.backend`: the backend with the record; `Recorder.words`: a call of the record in words.
-/

namespace FilterQuery.Recorder

/-- What the backend is told of names. -/
structure Vocabulary where
  /-- Names that are refused. -/
  refused : List String := []
  /-- Attributes that are collections. -/
  collections : List String := []
deriving DecidableEq, Repr

/-- A predicate as it was put together. -/
inductive Tree where
  | test (a : String) (t : Test)
  | all (trees : List Tree)
  | any (trees : List Tree)
  | neg (tree : Tree)
deriving Repr, Inhabited

/-- A description, unless the name in it is refused. -/
def describe (name description : String) : EStateM QueryError Vocabulary String := fun v =>
  if v.refused.contains name then
    .error ((QueryError.internal ("refused " ++ name)).withRelationPath "backend") v
  else .ok description v

/-- The backend of descriptions. -/
def describing : Backend Vocabulary String String Tree where
  rootAttr := fun name => describe name name
  joinAttr := fun join name => describe name (join ++ "." ++ name)
  joinRoot := fun name _ => describe name name
  joinFrom := fun parent name _ => describe name (parent ++ ">" ++ name)
  lower := fun _ a => "lower(" ++ a ++ ")"
  asInstant := fun _ a => "instant(" ++ a ++ ")"
  size := fun v a =>
    if v.collections.contains a then .ok ("size(" ++ a ++ ")") else .error (.notACollection a)
  test := fun a t v => (.test a t, v)
  all := fun _ trees => .all trees
  any := fun _ trees => .any trees
  neg := fun _ tree => .neg tree

/-- What is recorded of a call: the call itself, unless it is a null test. -/
def record (call : Call String String) : List (Call String String) :=
  match call with
  | .test _ .isNull => []
  | .test _ .isNotNull => []
  | call => [call]

/-- The backend of descriptions, with a record of its calls. -/
def backend : Backend (Watched Vocabulary (Call String String)) String String Tree :=
  describing.watched fun call _ => record call

/-- A call in words. -/
def words : Call String String → List String
  | .rootAttr name => ["root_attr", name]
  | .joinAttr join name => ["join_attr", join, name]
  | .joinRoot name type => ["join_root", name, type.name]
  | .joinFrom parent name type => ["join_from", parent, name, type.name]
  | .test _ t => [t.name]

end FilterQuery.Recorder

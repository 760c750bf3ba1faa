import FilterQuery.Config
import FilterQuery.Declaration
import FilterQuery.Page
import FilterQuery.Predicate
import FilterQuery.RelationPath

/-!
# Compiling a filter

A filter object becomes one constraint: the conjunction of a predicate for each declared field that
holds a value. Sort keys that name such a field are sent along its relation path.

* `Compiler`: settings and an instant that counts as now;
* `Compiler.constrain`: the predicate of one field;
* `Compiler.constraint`, `Compiler.compile`: the constraint of an object, and with it the page.
-/

namespace FilterQuery

/-- Sort keys of a page as a filter type understands them: a key that names a field with a relation
path stands for that path. -/
def Declarations.sortKey {F : Type} (d : Declarations F) (key : SortKey) : SortKey :=
  match d.get? key.column with
  | some declaration => if declaration.hasPath then key.withColumn declaration.path else key
  | none => key

/-- A page with each sort key as the filter type understands it. -/
def Declarations.sortPage {F : Type} (d : Declarations F) (page : PageRequest) : PageRequest :=
  page.withSort (page.sort.map d.sortKey)

/-- Compiles filter objects. The same compiler serves any number of them. -/
structure Compiler where
  config : CompilerConfig := {}
  now : Instant

/-- A constraint, and the page to be fetched under it. -/
structure Compiled (Pred : Type) where
  constraint : Pred
  page : PageRequest

namespace Compiler

/-- A compiler with usable settings. -/
def of (config : CompilerConfig) (now : Instant) : Except QueryError Compiler := do
  config.validate
  return ⟨config, now⟩

/-- What the predicates of a compilation share. -/
def context (c : Compiler) : PredicateContext := ⟨c.now, c.config.maxListLen⟩

section

variable {State Attr Join Pred F : Type} (b : Backend State Attr Join Pred)

/-- The attribute that a field constrains. -/
def locate (c : Compiler) (d : Declaration) : EStateM QueryError State Attr :=
  if d.hasPath then RelationPath.resolve b c.config.joinType c.config.maxRelationDepth d.path
  else b.rootAttr d.field

/-- An error in the predicate of a field, with its place. -/
def place (filter : String) (d : Declaration) (e : QueryError) : QueryError :=
  ((e.withField d.field).withFilter filter).withOperation d.operation.name

/-- The predicate of a field that holds a value. -/
def constrain (c : Compiler) (filter : String) (d : Declaration) (input : Input) :
    EStateM QueryError State Pred := fun s =>
  match c.locate b d s with
  | .error e s => .error (place filter d e) s
  | .ok a s =>
    match d.operation.build b c.context a input s with
    | .error e s => .error (place filter d e) s
    | .ok p s => .ok p s

/-- One predicate for each field, in order, up to the first that fails. -/
def eachField (step : Declaration → Input → EStateM QueryError State Pred) :
    List (Declaration × Input) → EStateM QueryError State (List Pred)
  | [] => pure []
  | (d, input) :: rest => do
    let p ← step d input
    return p :: (← eachField step rest)

/-- All of the predicates, which is no constraint if there are none. -/
def conjunction (s : State) : List Pred → Pred
  | [] => b.always s
  | ps => b.all s ps

/-- The conjunction of what `step` makes of the fields of an object that hold a value. -/
def assemble (t : FilterType F) (object : F)
    (step : Declaration → Input → EStateM QueryError State Pred) :
    EStateM QueryError State Pred := fun s =>
  match t.declarations.active object with
  | .error e => .error (e.withFilter t.name) s
  | .ok active =>
    match eachField step active s with
    | .error e s => .error e s
    | .ok ps s => .ok (conjunction b s ps) s

/-- The constraint of a filter object. -/
def constraint (c : Compiler) (t : FilterType F) (object : F) : EStateM QueryError State Pred :=
  assemble b t object (c.constrain b t.name)

/-- The constraint of a filter object, and the page in its terms. -/
def compile (c : Compiler) (t : FilterType F) (object : F) (page : PageRequest) :
    EStateM QueryError State (Compiled Pred) := do
  let p ← c.constraint b t object
  return ⟨p, t.declarations.sortPage page⟩

end

end Compiler

end FilterQuery

import FilterQuery.Backend.Watched
import FilterQuery.Execution
import FilterQuery.Log

/-!
# The journal of a compilation

The steps of a compilation as events, noted by watching the backend and between the calls to it.

* `Call.events`: the events of a call;
* `Compiler.watchedConstraint`: compiling a filter object under watch;
* `Compiler.findEvents`: the events of fetching a page.
-/

namespace FilterQuery

section

variable {State Attr Join Pred F : Type}

/-- The events of a call. A join that is made has the events `onJoin`. -/
def Call.events (onJoin : List Event) : Call Attr Join → Bool → List Event
  | joinRoot _ _, true => onJoin
  | joinFrom _ _ _, true => onJoin
  | test _ (.isIn []), _ => [.emptyMembership]
  | _, _ => []

/-- Note events between calls. -/
def note (events : List Event) : EStateM QueryError (Watched State Event) Unit := fun s =>
  .ok () (s.1, s.2 ++ events)

/-- The constraint of a filter object, compiled under watch. -/
def Compiler.watchedConstraint (c : Compiler) (settings : LogSettings)
    (b : Backend State Attr Join Pred) (onJoin : List Event) (t : FilterType F) (object : F) :
    EStateM QueryError (Watched State Event) Pred := do
  note [.scanned t.declarations.size]
  let b := b.watched (Call.events onJoin)
  let p ← assemble b t object fun d input => do
    let p ← c.constrain b t.name d input
    note (if settings.debug then [.compiledField] else [])
    return p
  note [.assembled (((t.declarations.active object).toOption.getD []).length)]
  return p

end

open Sql

/-- A join is told of by the criteria that record it and by the path that asks for it. -/
def sqlJoinEvents : List Event := [.addingJoin, .joinedRelation]

/-- The events of sorting a page: one for each join that it adds, also when it fails. -/
def Sql.Criteria.sortEvents (c : Criteria) (page : PageRequest) : List Event :=
  let sorted := match Criteria.sortOperands page.sort c with
    | .error _ sorted => sorted
    | .ok _ sorted => sorted
  List.replicate (sorted.joins.length - c.joins.length) .addingJoin

/-- The events of fetching the page of a filter object. -/
def Compiler.findEvents {F : Type} (c : Compiler) (settings : LogSettings) (t : FilterType F)
    (object : F) (page : PageRequest) (criteria : Criteria) : List Event :=
  let criteria := criteria.withMaxDepth c.config.maxRelationDepth
  match c.watchedConstraint settings Criteria.backend sqlJoinEvents t object (criteria, []) with
  | .error _ s => s.2
  | .ok constraint s =>
    let page := t.declarations.sortPage page
    s.2 ++ s.1.sortEvents page ++
      match s.1.finish constraint page with
      | .error _ => []
      | .ok query => [.executing query.params.length]

end FilterQuery

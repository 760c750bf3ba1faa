import FilterQuery.Compiler
import FilterQuery.Sql.Select

/-!
# Fetching a page

* `Executor`: what runs a query and gives a page, on a store of its own;
* `Compiler.prepare`: the query of a filter object and a page;
* `Compiler.find`: the page of a filter object;
* `NumberedRows`: a store of numbered rows that remembers the queries it ran.
-/

namespace FilterQuery

open Sql

/-- Runs a query for a page on a store. -/
abbrev Executor (Store Item : Type) : Type :=
  SelectQuery → PageRequest → EStateM QueryError Store (Page Item)

section

variable {Store Item F : Type}

/-- The query of a filter object and a page, with the page in the object's terms. Sort keys may join
as deep as declared paths. -/
def Compiler.prepare (c : Compiler) (t : FilterType F) (object : F) (page : PageRequest)
    (criteria : Criteria) : Except QueryError (SelectQuery × PageRequest) :=
  match c.compile Criteria.backend t object page
      (criteria.withMaxDepth c.config.maxRelationDepth) with
  | .error e _ => .error e
  | .ok compiled criteria =>
    (criteria.finish compiled.constraint compiled.page).map fun query => (query, compiled.page)

/-- The page of a filter object. The executor is only asked if there is a query. -/
def Compiler.find (c : Compiler) (t : FilterType F) (object : F) (page : PageRequest)
    (criteria : Criteria) (executor : Executor Store Item) :
    EStateM QueryError Store (Page Item) := fun store =>
  match c.prepare t object page criteria with
  | .error e => .error e store
  | .ok (query, page) => executor query page store

end

/-! ## Numbered rows -/

/-- The numbers of the rows on a page, of `total` rows counted from zero. -/
def PageRequest.rows (r : PageRequest) (total : UInt64) : List Nat :=
  let stop := min (wordAtMost (r.offset.toNat + r.size.toNat)).toNat total.toNat
  List.range' r.offset.toNat (stop - r.offset.toNat)

/-- A store of `total` rows, which may be out of order, and the queries that it ran. -/
structure NumberedRows where
  total : UInt64
  failure : Option String := none
  executed : List SelectQuery := []

/-- Remembers the query and gives the numbers of the rows. -/
def NumberedRows.executor : Executor NumberedRows Nat := fun query page store =>
  let store := { store with executed := store.executed ++ [query] }
  match store.failure with
  | some message => .error (.internal message) store
  | none => .ok ⟨page.rows store.total, page, store.total⟩ store

end FilterQuery

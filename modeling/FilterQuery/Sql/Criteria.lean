import FilterQuery.Backend.Basic
import FilterQuery.DottedPath
import FilterQuery.Sort
import FilterQuery.Sql.Constraint
import FilterQuery.Sql.Relation

/-!
# Criteria of a query

The SQL backend: a root table, and the joins that paths have asked for. The root has the alias `t0`,
and the joins have `j1`, `j2` and so on in the order in which they were made.

* `Criteria`, `Join`: what is known of the tables, and the joins so far;
* `Criteria.addJoin`: one more join;
* `Criteria.backend`: the operations that a compiler uses;
* `Criteria.sortOperand`: the column of a sort key, through joins that are there already.
-/

namespace FilterQuery.Sql

/-- The alias of the root table. -/
def rootAlias : String := "t0"

/-- The alias of the `n`-th join, counted from one. -/
def joinAlias (n : Nat) : String := "j" ++ toString n

/-- A join of a related table. -/
structure Join where
  joinType : JoinType
  /-- The name of the relation that was asked for. -/
  name : String
  /-- The relations from the root, joined by dots. -/
  path : String
  parentAlias : String
  tableAlias : String
  relation : Relation
  /-- The dialect at the time of the join. -/
  dialect : Dialect
deriving DecidableEq, Repr

namespace Join

/-- The joined table. -/
def table (j : Join) : String := j.relation.table

/-- The condition of the join. -/
def on (j : Join) : String := j.relation.onCondition j.dialect j.parentAlias j.tableAlias

end Join

/-- A table of the query: its alias, and the relations from the root, joined by dots. -/
structure Source where
  tableAlias : String
  path : String
deriving DecidableEq, Repr

/-- The root table. -/
def Source.root : Source := ⟨rootAlias, ""⟩

/-- The joined table. -/
def Join.source (j : Join) : Source := ⟨j.tableAlias, j.path⟩

/-- A query in the making. -/
structure Criteria where
  table : String
  dialect : Dialect := .postgreSQL
  /-- The greatest number of joins for one sort key. -/
  maxDepth : Nat := 8
  /-- The joins so far, in order. -/
  joins : List Join := []
  /-- Registered relations by their paths, the latest first. -/
  relations : List (String × Relation) := []
  /-- Paths of attributes that hold collections. -/
  collections : List String := []
deriving Repr

namespace Criteria

/-! ## Registration -/

def withDialect (c : Criteria) (d : Dialect) : Criteria := { c with dialect := d }

def withMaxDepth (c : Criteria) (depth : Nat) : Criteria := { c with maxDepth := depth }

/-- Register how the relation at a path is joined. -/
def withRelation (c : Criteria) (path : String) (r : Relation) : Criteria :=
  { c with relations := (path, r) :: c.relations }

/-- Register that the attribute at a path holds a collection. -/
def withCollection (c : Criteria) (path : String) : Criteria :=
  { c with collections := path :: c.collections }

/-- The relation registered for a path, or the conventional one with a name. -/
def relationAt (c : Criteria) (path name : String) : Relation :=
  (c.relations.lookup path).getD (Relation.conventional name)

/-! ## Joins -/

/-- A path with one more name. -/
def extend (path name : String) : String := if path.isEmpty then name else path ++ "." ++ name

/-- The join of a relation that would come next. -/
def nextJoin (c : Criteria) (parent : Source) (name : String) (joinType : JoinType) : Join :=
  let path := extend parent.path name
  { joinType := joinType
    name := name
    path := path
    parentAlias := parent.tableAlias
    tableAlias := joinAlias (c.joins.length + 1)
    relation := c.relationAt path name
    dialect := c.dialect }

/-- Join a relation of a table. -/
def addJoin (parent : Source) (name : String) (joinType : JoinType) :
    EStateM QueryError Criteria Source := fun c =>
  if name.isEmpty then .error (.invalidRelationPath parent.path "empty relation name") c
  else
    let join := c.nextJoin parent name joinType
    .ok join.source { c with joins := c.joins ++ [join] }

/-! ## Attributes -/

/-- A column of a table. -/
def columnOf (source : Source) (name : String) : EStateM QueryError Criteria Operand := fun c =>
  if name.isEmpty then .error (.invalidRelationPath source.path "empty attribute name") c
  else .ok (.column source.tableAlias name) c

/-- The relations and the attribute from the root to a column, joined by dots. -/
def attributePath (c : Criteria) : Operand → Option String
  | .column qualifier name =>
    if qualifier = rootAlias then some name
    else (c.joins.find? fun j => j.tableAlias == qualifier).map fun j => j.path ++ "." ++ name
  | _ => none

/-- The number of items of an operand that is a collection. -/
def sizeOf (c : Criteria) (a : Operand) : Except QueryError Operand :=
  match c.attributePath a with
  | some path =>
    if c.collections.contains path then .ok (.size a) else .error (.notACollection path)
  | none => .error (.notACollection (a.sql c.dialect))

/-- The SQL backend. -/
def backend : Backend Criteria Operand Source Constraint where
  rootAttr := columnOf .root
  joinAttr := columnOf
  joinRoot := addJoin .root
  joinFrom := addJoin
  lower := fun _ a => .lower a
  asInstant := fun _ a => .instant a
  size := sizeOf
  test := fun a t c => (.test a t, c)
  all := fun _ cs => .and cs
  any := fun _ cs => .or cs
  neg := fun _ p => .neg p

/-! ## Sort keys -/

/-- The first join of a relation of a table. -/
def findJoin (c : Criteria) (parent : Source) (name : String) : Option Join :=
  c.joins.find? fun j => j.parentAlias == parent.tableAlias && j.name == name

/-- Join a relation of a table, unless there is such a join. -/
def reuseJoin (parent : Source) (name : String) : EStateM QueryError Criteria Source := fun c =>
  match c.findJoin parent name with
  | some j => .ok j.source c
  | none => addJoin parent name .left c

/-- The table at the end of relations that start from a table. -/
def reuseChain : List String → Source → EStateM QueryError Criteria Source
  | [], source => pure source
  | name :: rest, source => do reuseChain rest (← reuseJoin source name)

/-- A sort key without empty segments and within the depth. -/
def readSortKey (depth : Nat) (column : String) : Except QueryError DottedPath :=
  let p := DottedPath.split column
  if p.segments.any String.isEmpty then
    .error (.invalidRelationPath column "empty segment in sort key")
  else if depth < p.relations.length then
    .error (.invalidRelationPath column
      ("sort key needs " ++ toString p.relations.length ++
        " joins, exceeding the maximum depth of " ++ toString depth))
  else .ok p

/-- The column of a sort key. Joins for the same relations are used again. -/
def sortOperand (column : String) : EStateM QueryError Criteria Operand := fun c =>
  match readSortKey c.maxDepth column with
  | .error e => .error e c
  | .ok p =>
    match reuseChain p.relations .root c with
    | .error e c => .error e c
    | .ok source c => .ok (.column source.tableAlias p.leaf) c

/-- The columns of sort keys, one after the other. -/
def sortOperands : List SortKey → EStateM QueryError Criteria (List (SortKey × Operand))
  | [] => pure []
  | key :: rest => do
    let operand ← sortOperand key.column
    return (key, operand) :: (← sortOperands rest)

end Criteria

end FilterQuery.Sql

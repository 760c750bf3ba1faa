import FilterQuery.Page
import FilterQuery.Sql.Criteria

/-!
# Select statements

* `SelectQuery`: a statement for one page and one that counts all rows, with shared parameters;
* `Criteria.finish`: the statements of a constraint and a page.
-/

namespace FilterQuery.Sql

/-- A page query with the matching count query. Both bind the same values. -/
structure SelectQuery where
  sql : String
  /-- Counts the rows of all pages; joins that only serve the order are left out. -/
  countSql : String
  /-- The values to bind, in the order of the placeholders. -/
  params : List Value
deriving Repr

/-- One join in a statement. -/
def Join.clause (d : Dialect) (j : Join) : String :=
  " " ++ j.joinType.keyword ++ " " ++ identifier d j.table ++ " " ++ j.tableAlias ++ " ON " ++ j.on

/-- Joins in a statement. -/
def joinClauses (d : Dialect) : List Join → String
  | [] => ""
  | j :: rest => j.clause d ++ joinClauses d rest

/-- The condition of a statement, if there is one. -/
def whereClause (d : Dialect) (c : Constraint) : String :=
  if c.isAlways then "" else " WHERE " ++ c.sql d 0

/-- The order of a statement, if there is one. -/
def orderClause (d : Dialect) : List (SortKey × Operand) → String
  | [] => ""
  | keys => " ORDER BY " ++ Text.joined ", " (keys.map fun (key, a) => key.clause (a.sql d))

namespace Criteria

/-- The root table in a statement. -/
def fromClause (c : Criteria) : String :=
  " FROM " ++ identifier c.dialect c.table ++ " " ++ rootAlias

/-- The statements for a constraint and a page in an order. The constraint needs `filterJoins`, the
order all joins. -/
def select (c : Criteria) (filterJoins : List Join) (constraint : Constraint)
    (order : List (SortKey × Operand)) (page : PageRequest) : SelectQuery where
  sql := "SELECT " ++ rootAlias ++ ".*" ++ c.fromClause ++ joinClauses c.dialect c.joins ++
    whereClause c.dialect constraint ++ orderClause c.dialect order ++ " " ++ page.clause
  countSql := "SELECT COUNT(*)" ++ c.fromClause ++ joinClauses c.dialect filterJoins ++
    whereClause c.dialect constraint
  params := constraint.params

/-- The statements for a constraint and a page. Sort keys may need further joins. -/
def finish (c : Criteria) (constraint : Constraint) (page : PageRequest) :
    Except QueryError SelectQuery :=
  match sortOperands page.sort c with
  | .error e _ => .error e
  | .ok order sorted => .ok (sorted.select c.joins constraint order page)

end Criteria

end FilterQuery.Sql

import FilterQuery.Sql.Identifier
import FilterQuery.Text.Split

/-!
# Relations between tables

* `Relation`: the related table and the key columns on either side;
* `Relation.conventional`: the relation assumed where none is registered;
* `Relation.onCondition`: the condition that joins the two tables.
-/

namespace FilterQuery.Sql

/-- How many rows are related to how many. -/
inductive RelationKind where
  | oneToOne
  | oneToMany
  | manyToOne
deriving DecidableEq, Repr

namespace RelationKind

def title : RelationKind → String
  | oneToOne => "OneToOne"
  | oneToMany => "OneToMany"
  | manyToOne => "ManyToOne"

/-- An owner has many related rows. -/
def isMany (k : RelationKind) : Bool := k == oneToMany

end RelationKind

/-- How a table is joined to the one that owns the relation. -/
structure Relation where
  name : String
  kind : RelationKind
  /-- The related table. -/
  table : String
  /-- Key columns of the owner. -/
  fields : List String := []
  /-- Key columns of the related table. -/
  references : List String := []
deriving DecidableEq, Repr

namespace Relation

/-- A table named like the relation, with the key `id`, to which a column of the owner refers. -/
def conventional (name : String) : Relation where
  name := name
  kind := .manyToOne
  table := name
  fields := [name ++ "_id"]
  references := ["id"]

/-- Pairs of columns that are equal in related rows. Columns without partner are left out. -/
def keys (r : Relation) : List (String × String) := r.fields.zip r.references

/-- Two columns are equal. -/
def equation (d : Dialect) (owner related : String) (key : String × String) : String :=
  owner ++ "." ++ identifier d key.1 ++ " = " ++ related ++ "." ++ identifier d key.2

/-- The condition on rows of the owner and of the related table, given by their aliases. -/
def onCondition (r : Relation) (d : Dialect) (owner related : String) : String :=
  match r.keys with
  | [] => "TRUE"
  | keys => Text.joined " AND " (keys.map (equation d owner related))

end Relation

end FilterQuery.Sql

/-!
# Sort keys

* `SortKey`: a property or a dotted path, a direction, and where nulls go;
* `SortKey.clause`: a sort key over an expression, in SQL.
-/

namespace FilterQuery

/-- The direction of a sort. -/
inductive SortOrder where
  | ascending
  | descending
deriving DecidableEq, Repr, Inhabited

namespace SortOrder

def all : List SortOrder := [ascending, descending]

/-- The keyword, which is the name too. -/
def keyword : SortOrder → String
  | ascending => "ASC"
  | descending => "DESC"

/-- The direction with exactly this name. -/
def ofName? (s : String) : Option SortOrder := all.find? fun o => o.keyword == s

end SortOrder

/-- Where nulls go in a sort. -/
inductive NullsOrder where
  | first
  | last
deriving DecidableEq, Repr, Inhabited

namespace NullsOrder

def all : List NullsOrder := [first, last]

def name : NullsOrder → String
  | first => "first"
  | last => "last"

def keyword : NullsOrder → String
  | first => "NULLS FIRST"
  | last => "NULLS LAST"

/-- The place of nulls with exactly this name. -/
def ofName? (s : String) : Option NullsOrder := all.find? fun o => o.name == s

end NullsOrder

/-- One key of a sort. -/
structure SortKey where
  column : String
  order : SortOrder := .ascending
  nulls : Option NullsOrder := none
deriving DecidableEq, Repr

namespace SortKey

/-- The same direction and place of nulls, for another column. -/
def withColumn (k : SortKey) (column : String) : SortKey := { k with column := column }

/-- The key over an expression that is already written. -/
def clause (k : SortKey) (expression : String) : String :=
  expression ++ " " ++ k.order.keyword ++
    (match k.nulls with
      | none => ""
      | some nulls => " " ++ nulls.keyword)

end SortKey

end FilterQuery

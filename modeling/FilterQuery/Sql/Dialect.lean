import FilterQuery.Error
import FilterQuery.Text.Lowercase

/-!
# Dialects of SQL

* `Dialect`, `Dialect.read`;
* `Dialect.placeholder`, `Dialect.quote`: how parameters and quoted identifiers are written.
-/

namespace FilterQuery.Sql

/-- A dialect of SQL. -/
inductive Dialect where
  | postgreSQL
  | mySQL
  | sqLite
deriving DecidableEq, Repr, Inhabited

namespace Dialect

def all : List Dialect := [postgreSQL, mySQL, sqLite]

/-- The name of a dialect as people write it. -/
def title : Dialect → String
  | postgreSQL => "PostgreSQL"
  | mySQL => "MySQL"
  | sqLite => "SQLite"

/-- The name of a dialect in data. -/
def name (d : Dialect) : String := Text.asciiLowercase d.title

/-- The dialect with exactly this name. -/
def ofName? (s : String) : Option Dialect := all.find? fun d => d.name == s

/-- The dialect that a text names, in any ASCII case. -/
def read (s : String) : Except QueryError Dialect :=
  let lower := Text.asciiLowercase s
  if lower = "postgres" ∨ lower = "postgresql" then .ok postgreSQL
  else if lower = "mysql" ∨ lower = "mariadb" then .ok mySQL
  else if lower = "sqlite" then .ok sqLite
  else .error (.invalidConfiguration ("Unknown database type '" ++ lower ++ "'"))

/-- The placeholder of a parameter, counted from one. -/
def placeholder (index : Nat) : Dialect → String
  | postgreSQL => "$" ++ toString index
  | mySQL | sqLite => "?"

/-- The sign around quoted identifiers. In MySQL double quotes enclose texts. -/
def quote : Dialect → Char
  | mySQL => '\x60'
  | postgreSQL | sqLite => '"'

end Dialect

end FilterQuery.Sql

import FilterQuery.Sql.Dialect

/-!
# Identifiers

A name of ASCII letters, digits and underscores that is no reserved word stands for itself. Any
other name is quoted, and a quote inside it is written twice.

* `needsQuoting`, `quoted`, `identifier`.
-/

namespace FilterQuery.Sql

/-- Words with a meaning of their own, in any letter case. -/
def reservedWords : List String := [
  "user", "order", "group", "select", "from", "where", "table", "index", "key", "primary",
  "foreign", "check", "default", "null", "not", "and", "or", "in", "is", "like", "between",
  "case", "when", "then", "else", "end", "as", "on", "join", "left", "right", "inner",
  "outer", "cross", "natural", "using", "limit", "offset", "union", "intersect", "except",
  "all", "distinct", "having", "create", "alter", "drop", "insert", "update", "delete",
  "into", "values", "set", "returning"]

/-- An ASCII letter or digit, or an underscore. -/
def isWordChar (c : Char) : Bool := c.isAlphanum || c == '_'

/-- The name cannot stand for itself. -/
def needsQuoting (name : String) : Bool :=
  reservedWords.contains (Text.lowercase name) || !name.toList.all isWordChar

/-- The characters of a name, each quote twice. -/
def doubleQuotes (quote : Char) : List Char → List Char
  | [] => []
  | c :: cs => if c = quote then c :: c :: doubleQuotes quote cs else c :: doubleQuotes quote cs

/-- A name in quotes. -/
def quoted (d : Dialect) (name : String) : String :=
  String.ofList (d.quote :: doubleQuotes d.quote name.toList ++ [d.quote])

/-- A name as an identifier, in quotes if it needs them. -/
def identifier (d : Dialect) (name : String) : String :=
  if needsQuoting name then quoted d name else name

end FilterQuery.Sql

/-!
# Errors of a query

What can go wrong while a filter is compiled, with what is known about the place: the filter type,
the field, the operator and the relation path, and hints for whoever wrote the declaration.

* `ErrorCode`: seven kinds of error, numbered by category;
* `QueryError`: an error with its context; `QueryError.withField` and its like add to it;
* `QueryError.display`, `QueryError.report`: the one-line and the full text.
-/

namespace FilterQuery

/-- Kinds of errors. -/
inductive ErrorCode where
  | invalidFilter
  | invalidConfiguration
  | invalidRelationPath
  | invalidFilterValue
  | notACollection
  | fieldAccess
  | internal
deriving DecidableEq, Repr

namespace ErrorCode

/-- The number of a kind; its thousands are the category. -/
def number : ErrorCode → Nat
  | invalidFilter => 1003
  | invalidConfiguration => 7001
  | invalidRelationPath => 7002
  | invalidFilterValue => 7003
  | notACollection => 7004
  | fieldAccess => 7005
  | internal => 9001

def text (c : ErrorCode) : String := "S" ++ toString c.number

def description : ErrorCode → String
  | invalidFilter => "Invalid filter condition"
  | invalidConfiguration => "Invalid configuration"
  | invalidRelationPath => "Invalid relation path"
  | invalidFilterValue => "Invalid filter value"
  | notACollection => "Attribute is not a collection"
  | fieldAccess => "Field access failed"
  | internal => "Internal error"

/-- The declarations do not fit the model of the data. -/
def isConfiguration (c : ErrorCode) : Bool := c.number / 1000 == 7

end ErrorCode

/-- A hint for repairing an error, with example code at times. -/
structure Suggestion where
  text : String
  code : Option String := none
deriving DecidableEq, Repr

/-- An error with its context. `source` is the text of the error behind it. -/
structure QueryError where
  code : ErrorCode
  message : String
  filter : Option String := none
  field : Option String := none
  operation : Option String := none
  relationPath : Option String := none
  suggestions : List Suggestion := []
  help : Option String := none
  source : Option String := none
deriving DecidableEq, Repr

namespace QueryError

/-! ## Context -/

def withFilter (e : QueryError) (filter : String) : QueryError := { e with filter := some filter }

/-- Record the field, unless one is recorded already. -/
def withField (e : QueryError) (field : String) : QueryError :=
  { e with field := some (e.field.getD field) }

def withOperation (e : QueryError) (operation : String) : QueryError :=
  { e with operation := some operation }

def withRelationPath (e : QueryError) (path : String) : QueryError :=
  { e with relationPath := some path }

def withSuggestion (e : QueryError) (s : Suggestion) : QueryError :=
  { e with suggestions := e.suggestions ++ [s] }

def withHelp (e : QueryError) (help : String) : QueryError := { e with help := some help }

def withSource (e : QueryError) (source : String) : QueryError := { e with source := some source }

/-! ## The errors of each kind -/

/-- A relation path that cannot be resolved. -/
def invalidRelationPath (path reason : String) : QueryError where
  code := .invalidRelationPath
  message := "Cannot resolve relation path '" ++ path ++ "': " ++ reason
  relationPath := some path
  suggestions := [
    { text := "Relation paths are dot-separated relation names ending in an attribute" },
    { text := "Declare a joined attribute", code := some "status => Equal @ \"account.status\"" }]

/-- A value of a shape that the operator does not take. -/
def invalidValue (operation expected found : String) : QueryError where
  code := .invalidFilterValue
  message := "Operator " ++ operation ++ " expects " ++ expected ++ ", found " ++ found
  operation := some operation
  help := some "The field type does not fit its declared operator"

/-- A size asked of an attribute that holds no collection. -/
def notACollection (path : String) : QueryError where
  code := .notACollection
  message := "Attribute '" ++ path ++ "' is not a collection"
  suggestions := [{ text := "Size operators only apply to collection-valued attributes" }]

/-- A declared field that could not be read. -/
def fieldAccess (field message : String) : QueryError where
  code := .fieldAccess
  message := "Failed to read field '" ++ field ++ "': " ++ message
  field := some field

def invalidConfiguration (message : String) : QueryError where
  code := .invalidConfiguration
  message := message

/-- An error that no declaration should be able to cause. -/
def internal (message : String) : QueryError where
  code := .internal
  message := "Internal error: " ++ message
  help := some "This is likely a bug in sieve - please report it"

def isConfiguration (e : QueryError) : Bool := e.code.isConfiguration

/-! ## Text -/

/-- Code and message. -/
def display (e : QueryError) : String := "[" ++ e.code.text ++ "] " ++ e.message

/-- A line about the context, if it is known. -/
def contextLine (label : String) : Option String → String
  | none => ""
  | some s => "  → " ++ label ++ ": " ++ s ++ "\n"

/-- Example code, indented, between fences. -/
def codeBlock (code : String) : String :=
  let indented := code.toList.flatMap fun c => if c = '\n' then "\n     ".toList else [c]
  "     \x60\x60\x60\n     " ++ String.ofList indented ++ "\n     \x60\x60\x60\n"

/-- Suggestions, numbered from `n`. -/
def suggestionLines (n : Nat) : List Suggestion → String
  | [] => ""
  | s :: rest =>
    "  " ++ toString n ++ ". " ++ s.text ++ "\n" ++ ((s.code.map codeBlock).getD "") ++
      suggestionLines (n + 1) rest

/-- The error with all of its context and hints. -/
def report (e : QueryError) : String :=
  "Error [" ++ e.code.text ++ "]: " ++ e.message ++ "\n" ++
    contextLine "Filter" e.filter ++ contextLine "Field" e.field ++
    contextLine "Operator" e.operation ++ contextLine "Relation" e.relationPath ++
    (if e.suggestions.isEmpty then "" else "\nSuggestions:\n" ++ suggestionLines 1 e.suggestions) ++
    (match e.help with
      | none => ""
      | some help => "\nHelp: " ++ help ++ "\n")

end QueryError

end FilterQuery

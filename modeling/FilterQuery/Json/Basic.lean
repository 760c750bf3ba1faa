import FilterQuery.Double.Decimal
import FilterQuery.Text.Split

/-!
# JSON values

A number written without fraction and exponent is an integer, any other is a double. The fields of
an object are kept in the order of their names, one for each name.

* `Json`, `Json.field?`, `Json.setField`;
* `Json.compact`: a value in writing, without blanks.
-/

namespace FilterQuery

/-- A JSON value. -/
inductive Json where
  | null
  | bool (b : Bool)
  | int (n : Int)
  | float (x : Double)
  | str (s : String)
  | arr (items : List Json)
  | obj (fields : List (String × Json))
deriving Repr, BEq, Inhabited

namespace Json

/-- Put a field at its place in the order of names, instead of one with the same name. -/
def setField (name : String) (v : Json) : List (String × Json) → List (String × Json)
  | [] => [(name, v)]
  | (n, w) :: rest =>
    if name < n then (name, v) :: (n, w) :: rest
    else if name = n then (name, v) :: rest
    else (n, w) :: setField name v rest

/-- The object with the given fields; of two with the same name the later one counts. -/
def ofFields (fields : List (String × Json)) : Json :=
  obj (fields.foldl (fun done (n, v) => setField n v done) [])

/-- The field of an object with a given name. -/
def field? (name : String) : Json → Option Json
  | obj fields => fields.lookup name
  | _ => none

/-! ## Writing -/

def hexDigit (n : Nat) : Char := Char.ofNat (if n < 10 then 48 + n else 87 + n)

/-- A character inside quotes. Control characters have short escapes or hexadecimal ones. -/
def escape (c : Char) : List Char :=
  if c = '"' then ['\\', '"']
  else if c = '\\' then ['\\', '\\']
  else if c = '\n' then ['\\', 'n']
  else if c = '\r' then ['\\', 'r']
  else if c = '\t' then ['\\', 't']
  else if c = '\x08' then ['\\', 'b']
  else if c = '\x0c' then ['\\', 'f']
  else if c.toNat < 32 then ['\\', 'u', '0', '0', hexDigit (c.toNat / 16), hexDigit (c.toNat % 16)]
  else [c]

/-- A text in quotes. -/
def quoted (s : String) : String := String.ofList ('"' :: s.toList.flatMap escape ++ ['"'])

mutual

/-- A value in writing, without blanks. A double that is not finite has no form of its own and is
written as null. -/
def compact : Json → String
  | null => "null"
  | bool true => "true"
  | bool false => "false"
  | int n => toString n
  | float x => if x.isFinite then x.text else "null"
  | str s => quoted s
  | arr items => "[" ++ Text.joined "," (compactItems items) ++ "]"
  | obj fields => "\x7b" ++ Text.joined "," (compactFields fields) ++ "\x7d"

def compactItems : List Json → List String
  | [] => []
  | v :: rest => v.compact :: compactItems rest

def compactFields : List (String × Json) → List String
  | [] => []
  | (n, v) :: rest => (quoted n ++ ":" ++ v.compact) :: compactFields rest

end

end Json

end FilterQuery

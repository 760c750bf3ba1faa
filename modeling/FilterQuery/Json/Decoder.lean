import FilterQuery.Error
import FilterQuery.Json.Reader

/-!
# Decoding JSON

Readers of typed data from JSON values. A record may be an object, or an array of its fields in
order.

* `DecodeError`, `Decoder`;
* `Decoder.text`, `Decoder.integer`, `Decoder.list`, `Decoder.nullable`, `Decoder.named`;
* `record`, `required`, `optional`: records and their fields.
-/

namespace FilterQuery.Json

/-- Why a value could not be decoded. -/
inductive DecodeError where
  /-- The JSON has another shape. -/
  | shape
  /-- The shape is right, but the data break a rule of their own. -/
  | rejected (e : QueryError)
deriving DecidableEq, Repr

/-- Reads data from a JSON value. -/
abbrev Decoder (α : Type) : Type := Json → Except DecodeError α

namespace Decoder

variable {α : Type}

/-- What a partial function reads from a text. -/
def ofText (read : String → Option α) : Decoder α
  | .str s =>
    match read s with
    | some a => .ok a
    | none => .error .shape
  | _ => .error .shape

def text : Decoder String := ofText some

def boolean : Decoder Bool
  | .bool b => .ok b
  | _ => .error .shape

/-- A whole number between two bounds. -/
def integer (least greatest : Int) : Decoder Int
  | .int n => if least ≤ n ∧ n ≤ greatest then .ok n else .error .shape
  | _ => .error .shape

/-- A signed 64-bit number. -/
def long : Decoder Int64 := fun j =>
  (integer (-Int.pow 2 63) (Int.pow 2 63 - 1) j).map Int64.ofInt

/-- A signed 32-bit number. -/
def short : Decoder Int64 := fun j =>
  (integer (-Int.pow 2 31) (Int.pow 2 31 - 1) j).map Int64.ofInt

/-- An unsigned 64-bit number. -/
def word : Decoder UInt64 := fun j =>
  (integer 0 (Int.pow 2 64 - 1) j).map fun n => UInt64.ofNat n.toNat

/-- Any number, as a double. -/
def double : Decoder Double
  | .int n => .ok (Double.ofInt n)
  | .float x => .ok x
  | _ => .error .shape

/-- An array of values of one kind. -/
def list (item : Decoder α) : Decoder (List α)
  | .arr items => items.mapM item
  | _ => .error .shape

/-- A value, or null for none. -/
def nullable (value : Decoder α) : Decoder (Option α)
  | .null => .ok none
  | j => (value j).map some

/-- One of several names: a text, or an object whose only field has the name and holds null. -/
def named (ofName? : String → Option α) : Decoder α
  | .obj [(name, .null)] => ofText ofName? (.str name)
  | j => ofText ofName? j

end Decoder

variable {α : Type}

/-- A record with named fields. An object may have further fields, which are not looked at; an array
holds the fields in the order of `names` and may be short, but not long. -/
def record (names : List String) (read : List (String × Json) → Except DecodeError α) : Decoder α
  | .obj fields => read (fields.filter fun field => names.contains field.1)
  | .arr items => do
    let a ← read (names.zip items)
    if items.length ≤ names.length then return a else .error .shape
  | _ => .error .shape

/-- A field that has to be there. -/
def required (fields : List (String × Json)) (name : String) (value : Decoder α) :
    Except DecodeError α :=
  match fields.lookup name with
  | some j => value j
  | none => .error .shape

/-- A field with a default. -/
def optional (fields : List (String × Json)) (name : String) (default : α) (value : Decoder α) :
    Except DecodeError α :=
  match fields.lookup name with
  | some j => value j
  | none => .ok default

end FilterQuery.Json

import FilterQuery.Input
import FilterQuery.Operation

/-!
# Declared fields

A filter type declares, for each of its fields, an operator and the attribute that it constrains. A
filter type that embeds another one starts from the declarations of that one.

* `Declaration`: a field's name, its operator and its relation path;
* `Field`: a declaration with the function that reads the field of a filter object;
* `Declarations`: the fields of a filter type in order; `Declarations.field` adds or replaces one,
  `Declarations.inherit` takes over those of an embedded filter;
* `Declarations.active`: the fields of an object that hold a value.
-/

namespace FilterQuery

/-- How a field constrains an attribute. Without a path that is the attribute of the root named
like the field. -/
structure Declaration where
  field : String
  operation : Operation
  path : String := ""
deriving DecidableEq, Repr

/-- A relation path is declared. -/
def Declaration.hasPath (d : Declaration) : Bool := !d.path.isEmpty

/-- A declaration and how to read the field of a filter object `F`. -/
structure Field (F : Type) where
  declaration : Declaration
  access : F → Except QueryError (Option Input)

namespace Field

variable {F P : Type}

def name (f : Field F) : String := f.declaration.field

/-- An error of reading a field, as an error about the access to it. -/
def accessError (name : String) (e : QueryError) : QueryError :=
  let e := if e.code = .fieldAccess then e
    else (QueryError.fieldAccess name e.message).withSource e.display
  e.withField name

/-- The input that a field of the object holds. -/
def read (f : Field F) (object : F) : Except QueryError (Option Input) :=
  match f.access object with
  | .ok input => .ok input
  | .error e => .error (accessError f.name e)

/-- A field of an embedded object, read through the object around it. -/
def embed (project : F → P) (f : Field P) : Field F :=
  { declaration := f.declaration, access := fun object => f.access (project object) }

end Field

/-- The declared fields of a filter type, in order. -/
structure Declarations (F : Type) where
  fields : List (Field F)

namespace Declarations

variable {F P : Type}

/-- Nothing declared. -/
def empty : Declarations F := ⟨[]⟩

/-- The declarations of an embedded filter. -/
def inherit (parent : Declarations P) (project : F → P) : Declarations F :=
  ⟨parent.fields.map (Field.embed project)⟩

/-- Put a field in the place of the one with its name, or at the end. -/
def put (f : Field F) : List (Field F) → List (Field F)
  | [] => [f]
  | g :: rest => if g.name = f.name then f :: rest else g :: put f rest

/-- Declare a field. One of the same name is replaced where it stands. -/
def field (d : Declarations F) (declaration : Declaration)
    (access : F → Except QueryError (Option Input)) : Declarations F :=
  ⟨put ⟨declaration, access⟩ d.fields⟩

/-- The declaration of a field, by its name. -/
def get? (d : Declarations F) (name : String) : Option Declaration :=
  (d.fields.find? fun f => f.name == name).map Field.declaration

def size (d : Declarations F) : Nat := d.fields.length

/-- Read fields in order, up to the first that fails, and keep those that hold a value. -/
def activeFields (object : F) : List (Field F) → Except QueryError (List (Declaration × Input))
  | [] => .ok []
  | f :: rest =>
    match f.read object with
    | .error e => .error e
    | .ok none => activeFields object rest
    | .ok (some input) =>
      if input.isNull then activeFields object rest
      else (activeFields object rest).map fun active => (f.declaration, input) :: active

/-- The fields of an object that hold a value, with their inputs. -/
def active (d : Declarations F) (object : F) : Except QueryError (List (Declaration × Input)) :=
  activeFields object d.fields

end Declarations

/-- A kind of filter object: its name, for messages, and its declared fields. -/
structure FilterType (F : Type) where
  name : String
  declarations : Declarations F

end FilterQuery

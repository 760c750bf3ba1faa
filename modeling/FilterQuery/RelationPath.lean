import FilterQuery.Backend.Basic
import FilterQuery.DottedPath
import FilterQuery.Text.Blank

/-!
# Relation paths

A path such as `account.owner.name` joins `account` from the root, `owner` from that join, and ends
at the attribute `name` of the last join. A path of one segment is an attribute of the root.

* `RelationPath.read`: a path without blank segments;
* `RelationPath.resolve`: the attribute at the end of a path, joining each relation on the way.
-/

namespace FilterQuery

namespace RelationPath

/-- The place, from one, of the first segment that holds no character but blanks. -/
def firstBlank (segments : List String) : Option Nat :=
  (segments.findIdx? Text.allBlank).map (· + 1)

/-- The segments of a path, none of them blank. -/
def read (path : String) : Except QueryError DottedPath :=
  if path.isEmpty then .error (.invalidRelationPath path "empty path")
  else
    let p := DottedPath.split path
    match firstBlank p.segments with
    | some place =>
      .error (.invalidRelationPath path ("segment " ++ toString place ++ " is empty"))
    | none => .ok p

/-- A path with at most `limit` joins. -/
def readWithin (limit : Nat) (path : String) : Except QueryError DottedPath := do
  let p ← read path
  if limit < p.relations.length then
    .error ((QueryError.invalidRelationPath path (toString p.relations.length ++
      " joins exceed the maximum depth of " ++ toString limit)).withHelp
        "Raise max_relation_depth in CompilerConfig if the model really nests this deep")
  else return p

section

variable {State Attr Join Pred : Type} (b : Backend State Attr Join Pred)

/-- Where the next name of a path is looked up. -/
abbrev Position (Join : Type) : Type := Option Join

/-- Join a relation at a position. -/
def joinAt (joinType : JoinType) (relation : String) :
    Position Join → EStateM QueryError State Join
  | none => b.joinRoot relation joinType
  | some parent => b.joinFrom parent relation joinType

/-- The attribute with a name at a position. -/
def attrAt (name : String) : Position Join → EStateM QueryError State Attr
  | none => b.rootAttr name
  | some join => b.joinAttr join name

/-- Follow a path from a position. -/
def follow (joinType : JoinType) (leaf : String) :
    List String → Position Join → EStateM QueryError State Attr
  | [], position => attrAt b leaf position
  | relation :: rest, position => do
    let join ← joinAt b joinType relation position
    follow joinType leaf rest (some join)

/-- The attribute at the end of a path, with a join for each of its relations. -/
def resolve (joinType : JoinType) (limit : Nat) (path : String) :
    EStateM QueryError State Attr := fun s =>
  match readWithin limit path with
  | .error e => .error e s
  | .ok p =>
    match follow b joinType p.leaf p.relations none s with
    | .error e s => .error (e.withRelationPath path) s
    | .ok a s => .ok a s

end

end RelationPath

end FilterQuery

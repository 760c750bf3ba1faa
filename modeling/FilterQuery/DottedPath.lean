import FilterQuery.Text.Split

/-!
# Dotted paths

A text cut at its dots: the names of relations to follow, and the name of an attribute at the end.
There is always an attribute, which may be empty.

* `DottedPath`, `DottedPath.split`;
* `DottedPath.segments`: all names in order.
-/

namespace FilterQuery

/-- The relations to follow, and the attribute at the end. -/
structure DottedPath where
  relations : List String
  leaf : String
deriving DecidableEq, Repr

namespace DottedPath

/-- The path with the given segments, of which there is at least one. -/
def ofSegments (first : String) : List String → DottedPath
  | [] => ⟨[], first⟩
  | second :: rest =>
    let path := ofSegments second rest
    ⟨first :: path.relations, path.leaf⟩

/-- All names, the attribute last. -/
def segments (p : DottedPath) : List String := p.relations ++ [p.leaf]

/-- A text cut at its dots. -/
def split (s : String) : DottedPath :=
  let (first, rest) := Text.pieces '.' s.toList
  ofSegments (String.ofList first) (rest.map String.ofList)

theorem segments_ofSegments (first : String) (rest : List String) :
    (ofSegments first rest).segments = first :: rest := by
  induction rest generalizing first with
  | nil => rfl
  | cons second rest ih =>
    have := ih second
    simp only [segments, ofSegments, List.cons_append] at this ⊢
    rw [this]

end DottedPath

end FilterQuery

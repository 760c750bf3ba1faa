import FilterQuery.Config
import FilterQuery.Input
import FilterQuery.Json.Decoder
import FilterQuery.Page

/-!
# Records in JSON

Sort keys, page requests, pages, settings and ranges, from and to JSON.

* `SortKey.ofJson`, `SortKey.toJson`, and the same for the other records;
* `Range.ofJson`: two values, texts in the form of a date or an instant read as such.
-/

namespace FilterQuery

open Json (Decoder DecodeError record required optional)

/-! ## Sort keys and pages -/

/-- A sort key. It is ascending unless it says otherwise. -/
def SortKey.ofJson : Decoder SortKey := record ["column", "order", "nulls"] fun fields => do
  return {
    column := ← required fields "column" Decoder.text
    order := ← optional fields "order" .ascending (Decoder.named SortOrder.ofName?)
    nulls := ← optional fields "nulls" none (Decoder.nullable (Decoder.named NullsOrder.ofName?)) }

def SortKey.toJson (k : SortKey) : Json :=
  .ofFields (("column", .str k.column) :: ("order", .str k.order.keyword) ::
    match k.nulls with
    | none => []
    | some nulls => [("nulls", .str nulls.name)])

def PageRequest.ofJson : Decoder PageRequest := record ["page", "size", "sort"] fun fields => do
  return {
    page := ← required fields "page" Decoder.word
    size := ← required fields "size" Decoder.word
    sort := ← optional fields "sort" [] (Decoder.list SortKey.ofJson) }

def PageRequest.toJson (r : PageRequest) : Json :=
  .ofFields [
    ("page", .int r.page.toNat), ("size", .int r.size.toNat),
    ("sort", .arr (r.sort.map SortKey.toJson))]

/-- A page of items of a kind. -/
def Page.ofJson {Item : Type} (item : Decoder Item) : Decoder (Page Item) :=
  record ["items", "request", "total"] fun fields => do
    return {
      items := ← required fields "items" (Decoder.list item)
      request := ← required fields "request" PageRequest.ofJson
      total := ← required fields "total" Decoder.word }

def Page.toJson {Item : Type} (item : Item → Json) (p : Page Item) : Json :=
  .ofFields [
    ("items", .arr (p.items.map item)), ("request", p.request.toJson),
    ("total", .int p.total.toNat)]

/-! ## Settings -/

/-- Settings; what is left out has its default. -/
def CompilerConfig.ofJson : Decoder CompilerConfig :=
  record ["join_type", "max_relation_depth", "max_list_len"] fun fields => do
    let default : CompilerConfig := {}
    return {
      joinType := ← optional fields "join_type" default.joinType (Decoder.named JoinType.ofName?)
      maxRelationDepth :=
        ← optional fields "max_relation_depth" default.maxRelationDepth fun j =>
          (Decoder.word j).map UInt64.toNat
      maxListLen :=
        ← optional fields "max_list_len" default.maxListLen fun j =>
          (Decoder.word j).map UInt64.toNat }

def CompilerConfig.toJson (c : CompilerConfig) : Json :=
  .ofFields [
    ("join_type", .str c.joinType.name), ("max_relation_depth", .int c.maxRelationDepth),
    ("max_list_len", .int c.maxListLen)]

/-! ## Ranges -/

/-- A range from an array of its two ends. -/
def Range.ofJson : Decoder Range
  | .arr [start, stop] =>
    (Range.of (readTemporal (Value.ofJson start)) (readTemporal (Value.ofJson stop))).mapError
      .rejected
  | _ => .error .shape

end FilterQuery

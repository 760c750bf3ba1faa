import FilterQuery.Sort

/-!
# Pages

A request names a page by its number, counted from zero, and its size. Numbers are 64-bit words;
what would exceed them stays at the greatest one.

* `PageRequest`, `PageRequest.offset`, `PageRequest.next`, `PageRequest.clause`;
* `Page`: the items of one page, with the number of all items; `Page.totalPages`, `Page.hasNext`.
-/

namespace FilterQuery

/-- The greatest 64-bit word. -/
def maxWord : UInt64 := UInt64.ofNat (UInt64.size - 1)

/-- The word of a number, or the greatest one. -/
def wordAtMost (n : Nat) : UInt64 := if n < UInt64.size then UInt64.ofNat n else maxWord

/-- Which page is asked for, and in which order. -/
structure PageRequest where
  page : UInt64 := 0
  size : UInt64 := 20
  sort : List SortKey := []
deriving DecidableEq, Repr, Inhabited

namespace PageRequest

/-- A page in the order of the storage. -/
def of (page size : UInt64) : PageRequest := { page := page, size := size }

def withSort (r : PageRequest) (sort : List SortKey) : PageRequest := { r with sort := sort }

/-- The number of items before the page. -/
def offset (r : PageRequest) : UInt64 := wordAtMost (r.page.toNat * r.size.toNat)

/-- The page after. -/
def next (r : PageRequest) : PageRequest := { r with page := wordAtMost (r.page.toNat + 1) }

/-- The limit, and the offset if there is one, in SQL. -/
def clause (r : PageRequest) : String :=
  "LIMIT " ++ toString r.size.toNat ++
    (if r.offset = 0 then "" else " OFFSET " ++ toString r.offset.toNat)

end PageRequest

/-- The items of a page, the request for it, and the number of items on all pages. -/
structure Page (Item : Type) where
  items : List Item
  request : PageRequest
  total : UInt64
deriving Repr

namespace Page

variable {Item Other : Type}

/-- The number of pages; there is none of size zero. -/
def totalPages (p : Page Item) : UInt64 :=
  if p.request.size = 0 then 0
  else
    let full := p.total / p.request.size
    if p.total % p.request.size = 0 then full else full + 1

/-- There is a page after this one. -/
def hasNext (p : Page Item) : Bool := p.request.next.page < p.totalPages

/-- The page with other items. -/
def map (f : Item → Other) (p : Page Item) : Page Other :=
  { items := p.items.map f, request := p.request, total := p.total }

end Page

end FilterQuery

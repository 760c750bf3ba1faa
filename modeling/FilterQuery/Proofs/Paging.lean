import FilterQuery.Execution

/-!
# Walking through pages

Pages fetched one after the other, each request the one after that of the page before, as long as
there is a next page.

* `wordAtMost_toNat`, **`Page.lt_totalPages_iff`**, **`Page.hasNext_iff`**: the arithmetic of pages,
  said of numbers without bound;
* `PageRequest.rows_eq`: the rows of a page;
* `Page.Answers`, `Serves`: pages of numbered rows, and what gives them;
* `Walk`: a walk through pages, with `Walk.unique`; `exists_walk`: where it leads from a page;
* **`walk_through`**: a walk from the first page gives each row once, in order.
-/

namespace FilterQuery

/-! ## Words as numbers -/

theorem wordAtMost_toNat (n : Nat) : (wordAtMost n).toNat = min n (UInt64.size - 1) := by
  unfold wordAtMost
  by_cases h : n < UInt64.size
  · rw [if_pos h, UInt64.toNat_ofNat_of_lt' h]
    omega
  · rw [if_neg h, maxWord, UInt64.toNat_ofNat_of_lt' (by decide)]
    omega

theorem wordAtMost_toNat_of_lt {n : Nat} (h : n < UInt64.size) : (wordAtMost n).toNat = n := by
  rw [wordAtMost_toNat]
  omega

theorem toNat_pos {w : UInt64} (h : w ≠ 0) : 0 < w.toNat := by
  rw [Nat.pos_iff_ne_zero, ne_eq, ← UInt64.toNat_zero, UInt64.toNat_inj]
  exact h

/-! ## The number of pages -/

namespace Page

variable {Item : Type} {p : Page Item}

/-- **A page is one of all pages if there are rows from its start on.** -/
theorem lt_totalPages_iff (h : p.request.size ≠ 0) {n : Nat} :
    n < p.totalPages.toNat ↔ n * p.request.size.toNat < p.total.toNat := by
  have hpos : 0 < p.request.size.toNat := toNat_pos h
  have hdiv : p.total.toNat / p.request.size.toNat * p.request.size.toNat +
      p.total.toNat % p.request.size.toNat = p.total.toNat := Nat.div_add_mod' _ _
  have hmod : p.total.toNat % p.request.size.toNat < p.request.size.toNat := Nat.mod_lt _ hpos
  have hzero : p.total % p.request.size = 0 ↔ p.total.toNat % p.request.size.toNat = 0 := by
    rw [← UInt64.toNat_inj, UInt64.toNat_mod, UInt64.toNat_zero]
  unfold totalPages
  rw [if_neg h]
  dsimp only
  by_cases hz : p.total % p.request.size = 0
  · rw [if_pos hz, UInt64.toNat_div, ← Nat.mul_lt_mul_right hpos]
    have hm := hzero.1 hz
    omega
  · have hm : p.total.toNat % p.request.size.toNat ≠ 0 := fun hm => hz (hzero.2 hm)
    have hbound : p.total.toNat < 2 ^ 64 := UInt64.toNat_lt _
    have hle : p.total.toNat / p.request.size.toNat ≤
        p.total.toNat / p.request.size.toNat * p.request.size.toNat :=
      Nat.le_mul_of_pos_right _ hpos
    rw [if_neg hz, UInt64.toNat_add, UInt64.toNat_div, UInt64.toNat_one,
      Nat.mod_eq_of_lt (by omega)]
    constructor
    · intro hn
      have := Nat.mul_le_mul_right p.request.size.toNat (Nat.le_of_lt_succ hn)
      omega
    · intro hn
      refine Nat.lt_of_not_le fun hq => ?_
      have := Nat.mul_le_mul_right p.request.size.toNat hq
      rw [Nat.succ_mul] at this
      omega

/-- **There is a next page if there are rows from its start on.** -/
theorem hasNext_iff (h : p.request.size ≠ 0) : p.hasNext = true ↔
    (p.request.page.toNat + 1) * p.request.size.toNat < p.total.toNat := by
  have hbound : p.total.toNat < UInt64.size := UInt64.toNat_lt_size _
  have hpage : p.request.page.toNat < UInt64.size := UInt64.toNat_lt_size _
  rw [hasNext, decide_eq_true_iff, UInt64.lt_iff_toNat_lt, lt_totalPages_iff h,
    PageRequest.next, wordAtMost_toNat]
  by_cases hlast : p.request.page.toNat + 1 < UInt64.size
  · rw [Nat.min_eq_left (by omega)]
  · -- The number stays at the greatest word, and neither number has rows from its start on.
    have hsize : 0 < p.request.size.toNat := toNat_pos h
    have hnext := Nat.le_mul_of_pos_right (p.request.page.toNat + 1) hsize
    have hstay := Nat.le_mul_of_pos_right (UInt64.size - 1) hsize
    rw [Nat.min_eq_right (by omega)]
    omega

end Page

/-! ## The rows of a page -/

namespace PageRequest

variable (r : PageRequest) (total : UInt64)

theorem offset_toNat_of_lt (h : r.page.toNat * r.size.toNat < UInt64.size) :
    r.offset.toNat = r.page.toNat * r.size.toNat := wordAtMost_toNat_of_lt h

theorem rows_eq : r.rows total = List.range' r.offset.toNat
    (min (r.offset.toNat + r.size.toNat) total.toNat - r.offset.toNat) := by
  have hbound : total.toNat < UInt64.size := UInt64.toNat_lt_size _
  have hstop : min (min (r.offset.toNat + r.size.toNat) (UInt64.size - 1)) total.toNat =
      min (r.offset.toNat + r.size.toNat) total.toNat := by omega
  unfold rows
  rw [wordAtMost_toNat, hstop]

end PageRequest

/-! ## Walks -/

/-- The page that a store of `total` numbered rows has for a request. Its own request may name the
order in other terms. -/
structure Page.Answers (p : Page Nat) (r : PageRequest) (total : UInt64) : Prop where
  items_eq : p.items = r.rows total
  page_eq : p.request.page = r.page
  size_eq : p.request.size = r.size
  total_eq : p.total = total

namespace Page.Answers

variable {p : Page Nat} {r : PageRequest} {total : UInt64}

theorem hasNext_iff (h : p.Answers r total) (hsize : r.size ≠ 0) :
    p.hasNext = true ↔ (r.page.toNat + 1) * r.size.toNat < total.toNat := by
  rw [Page.hasNext_iff (h.size_eq ▸ hsize), h.page_eq, h.size_eq, h.total_eq]

theorem items_eq_range' (h : p.Answers r total) (hle : r.page.toNat * r.size.toNat ≤ total.toNat) :
    p.items = List.range' (r.page.toNat * r.size.toNat)
      (min ((r.page.toNat + 1) * r.size.toNat) total.toNat - r.page.toNat * r.size.toNat) := by
  have hbound : total.toNat < UInt64.size := UInt64.toNat_lt_size _
  rw [h.items_eq, PageRequest.rows_eq, r.offset_toNat_of_lt (by omega), Nat.succ_mul]

end Page.Answers

section

variable {Store Item : Type}

/-- Pages of numbered rows for all requests, as long as the store is ready, and it stays so. -/
def Serves (fetch : PageRequest → EStateM QueryError Store (Page Nat)) (ready : Store → Prop)
    (total : UInt64) : Prop :=
  ∀ r s, ready s → ∃ p s', fetch r s = .ok p s' ∧ p.Answers r total ∧ ready s'

/-- Pages fetched one after the other, as long as there is a next one. -/
inductive Walk (fetch : PageRequest → EStateM QueryError Store (Page Item)) :
    PageRequest → Store → List (Page Item) → Store → Prop
  | last {r : PageRequest} {s s' : Store} {p : Page Item} (page : fetch r s = .ok p s')
      (stop : p.hasNext = false) : Walk fetch r s [p] s'
  | next {r : PageRequest} {s s' s'' : Store} {p : Page Item} {ps : List (Page Item)}
      (page : fetch r s = .ok p s') (more : p.hasNext = true)
      (rest : Walk fetch p.request.next s' ps s'') : Walk fetch r s (p :: ps) s''

variable {fetch : PageRequest → EStateM QueryError Store (Page Item)} {r : PageRequest}
  {s t u : Store} {ps qs : List (Page Item)}

theorem Walk.unique (h : Walk fetch r s ps t) (h' : Walk fetch r s qs u) : qs = ps ∧ u = t := by
  induction h generalizing qs u with
  | last page stop =>
    cases h' with
    | last page' stop' =>
      rw [page, EStateM.Result.ok.injEq] at page'
      exact ⟨by rw [page'.1], page'.2.symm⟩
    | next page' more' rest' =>
      rw [page, EStateM.Result.ok.injEq] at page'
      rw [page'.1, more'] at stop
      cases stop
  | next page more rest ih =>
    cases h' with
    | last page' stop' =>
      rw [page, EStateM.Result.ok.injEq] at page'
      rw [page'.1, stop'] at more
      cases more
    | next page' more' rest' =>
      rw [page, EStateM.Result.ok.injEq] at page'
      obtain ⟨rfl, rfl⟩ := page'
      obtain ⟨rfl, rfl⟩ := ih rest'
      exact ⟨rfl, rfl⟩

end

section

variable {Store : Type} {fetch : PageRequest → EStateM QueryError Store (Page Nat)}
  {ready : Store → Prop} {total : UInt64}

theorem start_le {page size count : Nat} (hcount : ∀ n, n < count ↔ n * size < total.toNat)
    (hstart : page < max 1 count) : page * size ≤ total.toNat := by
  rcases Nat.eq_zero_or_pos page with h0 | h0
  · rw [h0, Nat.zero_mul]
    exact Nat.zero_le _
  · exact Nat.le_of_lt ((hcount page).1 (by omega))

/-- **Where a walk leads from a page.** It comes to its end with the last of `count` pages, and
gives all rows from the start of the page on. -/
theorem exists_walk (h : Serves fetch ready total) {r : PageRequest} (hsize : r.size ≠ 0)
    {count : Nat} (hcount : ∀ n, n < count ↔ n * r.size.toNat < total.toNat)
    (hstart : r.page.toNat < max 1 count) {s : Store} (hs : ready s) :
    ∃ pages s', Walk fetch r s pages s' ∧ r.page.toNat + pages.length = max 1 count ∧
      (∀ p ∈ pages, p.request.size = r.size ∧ p.total = total) ∧
      pages.flatMap Page.items = List.range' (r.page.toNat * r.size.toNat)
        (total.toNat - r.page.toNat * r.size.toNat) := by
  -- The induction is on the number of pages after this one.
  induction hn : count - (r.page.toNat + 1) generalizing r s with
  | zero =>
    obtain ⟨p, s', hp, ha, -⟩ := h r s hs
    have hend : total.toNat ≤ (r.page.toNat + 1) * r.size.toNat :=
      Nat.le_of_not_lt fun hlt => by have := (hcount _).2 hlt; omega
    have hstop : p.hasNext = false := by
      rw [← Bool.not_eq_true, ha.hasNext_iff hsize]
      omega
    refine ⟨[p], s', .last hp hstop, ?_, ?_, ?_⟩
    · rw [List.length_singleton]
      omega
    · intro q hq
      obtain rfl := List.mem_singleton.1 hq
      exact ⟨ha.size_eq, ha.total_eq⟩
    · rw [List.flatMap_singleton, ha.items_eq_range' (start_le hcount hstart),
        Nat.min_eq_right hend]
  | succ n ih =>
    obtain ⟨p, s', hp, ha, hs'⟩ := h r s hs
    have hlt : (r.page.toNat + 1) * r.size.toNat < total.toNat := (hcount _).1 (by omega)
    have hpos : 0 < r.size.toNat := toNat_pos hsize
    have hpage : p.request.next.page.toNat = r.page.toNat + 1 := by
      have hbound : total.toNat < UInt64.size := UInt64.toNat_lt_size _
      have hmul := Nat.le_mul_of_pos_right (r.page.toNat + 1) hpos
      rw [PageRequest.next, ha.page_eq, wordAtMost_toNat_of_lt (by omega)]
    have hnext : p.request.next.size = r.size := ha.size_eq
    obtain ⟨pages, s'', hwalk, hlength, hall, hitems⟩ := ih (hnext ▸ hsize) (hnext ▸ hcount)
      (by omega) hs' (by omega)
    refine ⟨p :: pages, s'', .next hp ((ha.hasNext_iff hsize).2 hlt) hwalk, ?_, ?_, ?_⟩
    · rw [List.length_cons]
      omega
    · rw [List.forall_mem_cons]
      exact ⟨⟨ha.size_eq, ha.total_eq⟩, hnext ▸ hall⟩
    · rw [List.flatMap_cons, hitems, hpage, hnext, ha.items_eq_range' (start_le hcount hstart),
        Nat.min_eq_left (by omega)]
      rw [Nat.succ_mul] at hlt ⊢
      rw [Nat.add_sub_cancel_left, List.range'_append_1]
      congr 1
      omega

/-- **A walk from the first page gives each row once, in order.** There is one such walk, and it has
as many pages as there are, or a single one without rows. -/
theorem walk_through (h : Serves fetch ready total) {size : UInt64} (hsize : 1 ≤ size) {s : Store}
    (hs : ready s) :
    ∃ pages s', (∀ ps t, Walk fetch (.of 0 size) s ps t ↔ ps = pages ∧ t = s') ∧
      pages ≠ [] ∧ (∀ p ∈ pages, pages.length = max 1 p.totalPages.toNat) ∧
      pages.flatMap Page.items = List.range total.toNat := by
  have hne : size ≠ 0 := by
    rintro rfl
    exact absurd hsize (by decide)
  obtain ⟨pages, s', hwalk, hlength, hall, hitems⟩ := exists_walk h (r := .of 0 size) hne
    (fun _ => Page.lt_totalPages_iff (p := (⟨[], .of 0 size, total⟩ : Page Nat)) hne)
    (by change 0 < _; omega) hs
  have hpage : (PageRequest.of 0 size).page.toNat = 0 := rfl
  rw [hpage, Nat.zero_add] at hlength
  rw [hpage, Nat.zero_mul, Nat.sub_zero, ← List.range_eq_range'] at hitems
  refine ⟨pages, s', fun ps t => ⟨hwalk.unique, ?_⟩, ?_, fun p hp => ?_, hitems⟩
  · rintro ⟨rfl, rfl⟩
    exact hwalk
  · rintro rfl
    rw [List.length_nil] at hlength
    omega
  · obtain ⟨hp₁, hp₂⟩ := hall p hp
    rw [hlength, Page.totalPages, Page.totalPages, hp₁, hp₂]

end

theorem NumberedRows.serves (query : PageRequest → Sql.SelectQuery) (total : UInt64) :
    Serves (fun r => NumberedRows.executor (query r) r)
      (fun s => s.total = total ∧ s.failure = none) total := by
  rintro r ⟨_, _, executed⟩ ⟨rfl, rfl⟩
  exact ⟨_, _, rfl, ⟨rfl, rfl, rfl, rfl⟩, rfl, rfl⟩

/-- As many rows as a word can count, in pages of a size whose double is no word. -/
theorem walk_through_greatest :
    let query (r : PageRequest) := Sql.Criteria.select { table := "people" } [] .always [] r
    let fetch (r : PageRequest) := NumberedRows.executor (query r) r
    let store : NumberedRows := { total := 18446744073709551615 }
    (1 : UInt64) ≤ 9223372036854775808 ∧ store.failure = none ∧
      ∃ pages s', (∀ ps t, Walk fetch (.of 0 9223372036854775808) store ps t ↔
          ps = pages ∧ t = s') ∧
        pages ≠ [] ∧ (∀ p ∈ pages, pages.length = max 1 p.totalPages.toNat) ∧
        pages.flatMap Page.items = List.range store.total.toNat :=
  ⟨by decide, rfl, walk_through (NumberedRows.serves _ _) (by decide) ⟨rfl, rfl⟩⟩

end FilterQuery

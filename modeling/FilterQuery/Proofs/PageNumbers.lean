import FilterQuery.Proofs.Paging
import FilterQuery.Proofs.Sql.Names
import Mathlib.Order.Bounds.Defs

/-!
# Page numbers without bound

Offsets and numbers of pages are 64-bit words that stay at the greatest one. On pages that exist
they are what unbounded numbers would be.

* `PageRequest.offset_toNat`, `PageRequest.next_offset_of_lt`: offsets as numbers;
* `Page.isLeast_totalPages`: the least number of pages that holds all rows;
* `Page.hasNext_iff_next_offset`: the page after is announced if its request finds rows;
* `PageRequest.offset_infix_clause_iff`: when a request writes its offset;
* **`Page.numbers_exact`**: all of this on every page.
-/

namespace FilterQuery

namespace PageRequest

variable (r : PageRequest)

theorem offset_toNat :
    r.offset.toNat = min (r.page.toNat * r.size.toNat) (UInt64.size - 1) := wordAtMost_toNat _

theorem offset_eq_zero_iff : r.offset = 0 ↔ r.page.toNat * r.size.toNat = 0 := by
  rw [← UInt64.toNat_inj, offset_toNat, UInt64.toNat_zero]
  have : 0 < UInt64.size - 1 := by decide
  omega

theorem next_offset_of_lt (hsize : 0 < r.size.toNat)
    (h : (r.page.toNat + 1) * r.size.toNat < UInt64.size) :
    r.next.offset.toNat = (r.page.toNat + 1) * r.size.toNat := by
  have hpage : r.page.toNat + 1 ≤ (r.page.toNat + 1) * r.size.toNat :=
    Nat.le_mul_of_pos_right _ hsize
  have hnext : r.next.page.toNat = r.page.toNat + 1 := wordAtMost_toNat_of_lt (by omega)
  rw [offset_toNat, hnext]
  change min (_ * r.size.toNat) _ = _
  omega

/-- Beyond all words the offset of the page after is the greatest word. The number of that page may
be too large itself. -/
theorem next_offset_of_le (hsize : 0 < r.size.toNat)
    (h : UInt64.size ≤ (r.page.toNat + 1) * r.size.toNat) :
    r.next.offset.toNat = UInt64.size - 1 := by
  rw [offset_toNat]
  change min ((wordAtMost (r.page.toNat + 1)).toNat * r.size.toNat) _ = _
  rw [wordAtMost_toNat]
  by_cases hlast : r.page.toNat + 1 ≤ UInt64.size - 1
  · rw [Nat.min_eq_left hlast]
    omega
  · have hstay : UInt64.size - 1 ≤ (UInt64.size - 1) * r.size.toNat :=
      Nat.le_mul_of_pos_right _ hsize
    have hgreatest : min (r.page.toNat + 1) (UInt64.size - 1) = UInt64.size - 1 := by omega
    rw [hgreatest]
    omega

/-! ## The offset in writing -/

theorem clause_eq : r.clause = "LIMIT " ++ toString r.size.toNat ++
    if r.page.toNat * r.size.toNat = 0 then "" else " OFFSET " ++ toString r.offset.toNat := by
  unfold clause
  simp only [offset_eq_zero_iff]

/-- **The offset is written unless it is zero.** A limit alone has none of its letters. -/
theorem offset_infix_clause_iff :
    "OFFSET".toList <:+: r.clause.toList ↔ 0 < r.page.toNat * r.size.toNat := by
  rw [clause_eq, Nat.pos_iff_ne_zero]
  by_cases h : r.page.toNat * r.size.toNat = 0
  · rw [if_pos h, String.append_empty, String.toList_append]
    refine iff_of_false (fun hinfix => ?_) (fun hne => hne h)
    have hmem : 'O' ∈ "LIMIT ".toList ++ (toString r.size.toNat).toList :=
      hinfix.subset (by decide)
    rcases List.mem_append.1 hmem with hlimit | hdigit
    · exact absurd hlimit (by decide)
    · exact absurd (Sql.isDigit_of_mem_toString hdigit) (by decide)
  · rw [if_neg h]
    refine iff_of_true ?_ h
    refine ⟨("LIMIT " ++ toString r.size.toNat ++ " ").toList,
      (" " ++ toString r.offset.toNat).toList, ?_⟩
    simp only [String.toList_append, List.append_assoc]
    rfl

end PageRequest

namespace Page

variable {Item : Type} (p : Page Item)

theorem totalPages_of_size (h : p.request.size = 0) : p.totalPages = 0 := if_pos h

/-- **The number of pages** is the least that holds all rows. -/
theorem isLeast_totalPages (h : p.request.size ≠ 0) :
    IsLeast {count | p.total.toNat ≤ count * p.request.size.toNat} p.totalPages.toNat := by
  constructor
  · exact Nat.le_of_not_lt fun hlt => Nat.lt_irrefl _ ((lt_totalPages_iff h).2 hlt)
  · intro count hcount
    exact Nat.le_of_not_lt fun hlt => Nat.not_lt.2 hcount ((lt_totalPages_iff h).1 hlt)

/-- **A next page is announced** if the request for it finds rows. -/
theorem hasNext_iff_next_offset (h : p.request.size ≠ 0) :
    p.hasNext = true ↔ p.request.next.offset.toNat < p.total.toNat := by
  have hbound : p.total.toNat < UInt64.size := UInt64.toNat_lt_size _
  rw [hasNext_iff h]
  by_cases hlt : (p.request.page.toNat + 1) * p.request.size.toNat < UInt64.size
  · rw [PageRequest.next_offset_of_lt _ (toNat_pos h) hlt]
  · rw [PageRequest.next_offset_of_le _ (toNat_pos h) (Nat.le_of_not_lt hlt)]
    omega

theorem size_ne_zero_of_hasNext (h : p.hasNext = true) : p.request.size ≠ 0 := by
  intro hsize
  rw [hasNext, totalPages_of_size p hsize, decide_eq_true_iff] at h
  exact UInt64.not_lt_zero h

theorem hasNext_iff_pos_and {q : Prop} (h : p.request.size ≠ 0 → (p.hasNext = true ↔ q)) :
    p.hasNext = true ↔ 0 < p.request.size.toNat ∧ q := by
  constructor
  · intro hnext
    have hsize := size_ne_zero_of_hasNext p hnext
    exact ⟨toNat_pos hsize, (h hsize).1 hnext⟩
  · rintro ⟨hpos, hq⟩
    refine (h fun hsize => ?_).2 hq
    rw [hsize, UInt64.toNat_zero] at hpos
    exact Nat.lt_irrefl _ hpos

/-- **The numbers of a page are those that words without bound would give**, for every page number,
size and number of rows. Where the offset of the next page would exceed all words there are no rows
left, so a page that is announced is asked for at its own first row. -/
theorem numbers_exact :
    p.request.offset.toNat =
      min (p.request.page.toNat * p.request.size.toNat) (UInt64.size - 1) ∧
    (if p.request.size = 0 then p.totalPages = 0
      else IsLeast {count | p.total.toNat ≤ count * p.request.size.toNat} p.totalPages.toNat) ∧
    (p.hasNext = true ↔ 0 < p.request.size.toNat ∧
      (p.request.page.toNat + 1) * p.request.size.toNat < p.total.toNat) ∧
    (p.hasNext = true ↔ 0 < p.request.size.toNat ∧
      p.request.next.offset.toNat < p.total.toNat) ∧
    ("OFFSET".toList <:+: p.request.clause.toList ↔
      0 < p.request.page.toNat * p.request.size.toNat) ∧
    (p.hasNext = true →
      p.request.next.offset.toNat = (p.request.page.toNat + 1) * p.request.size.toNat ∧
      p.request.next.clause = "LIMIT " ++ toString p.request.size.toNat ++ " OFFSET " ++
        toString ((p.request.page.toNat + 1) * p.request.size.toNat)) := by
  refine ⟨p.request.offset_toNat, ?_, hasNext_iff_pos_and p hasNext_iff,
    hasNext_iff_pos_and p (hasNext_iff_next_offset p), p.request.offset_infix_clause_iff, ?_⟩
  · split
    · exact totalPages_of_size p ‹_›
    · exact isLeast_totalPages p ‹_›
  · intro h
    have hpos := toNat_pos (size_ne_zero_of_hasNext p h)
    have hlt := (hasNext_iff (size_ne_zero_of_hasNext p h)).1 h
    have hbound : p.total.toNat < UInt64.size := UInt64.toNat_lt_size _
    have hnext := p.request.next_offset_of_lt hpos (by omega)
    refine ⟨hnext, ?_⟩
    have hoffset : p.request.next.offset ≠ 0 := by
      rw [ne_eq, ← UInt64.toNat_inj, hnext, UInt64.toNat_zero]
      exact Nat.mul_ne_zero (Nat.succ_ne_zero _) (by omega)
    rw [PageRequest.clause, if_neg hoffset, hnext, String.append_assoc, String.append_assoc,
      String.append_assoc]
    rfl

/-- The greatest number of rows, one on each page: the page before the last announces it. The page
of the greatest number announces none, though the request after it has the same number and
offset. -/
theorem numbers_exact_greatest :
    let request (page : UInt64) : PageRequest := .of page 1
    let p : Page Nat := ⟨[], request 18446744073709551613, 18446744073709551615⟩
    let beyond : Page Nat := ⟨[], request 18446744073709551615, 18446744073709551615⟩
    p.hasNext = true ∧ p.request.next.offset.toNat = (p.request.page.toNat + 1) * 1 ∧
      p.request.next.clause = "LIMIT 1 OFFSET 18446744073709551614" ∧
      beyond.hasNext = false ∧ beyond.request.next.offset = beyond.request.offset := by
  intro request p beyond
  have hnext : p.hasNext = true := by decide +kernel
  obtain ⟨hoffset, hclause⟩ := (numbers_exact p).2.2.2.2.2 hnext
  exact ⟨hnext, hoffset, hclause.trans (by decide +kernel), by decide +kernel, by decide +kernel⟩

end Page

end FilterQuery

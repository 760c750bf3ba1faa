import FilterQuery.Proofs.Sql.First
import FilterQuery.Proofs.Sql.Growth
import FilterQuery.Proofs.Sql.Renaming

/-!
# Declared paths and sort keys

Both are dotted paths, each with a reader and a way of joining of its own. On criteria without joins
they come to the same.

* `Join.withType`, `Criteria.chain_withType`: the same chain of joins of another type;
* `Criteria.exists_resolve_iff`, `Criteria.exists_sortOperand_iff_segments`: which paths are
  accepted;
* **`Criteria.sortOperand_alike_resolve`**: what a declared path resolves to is what a sort key
  takes.
-/

namespace FilterQuery.Sql

/-! ## Joins of another type -/

/-- The join with another type. -/
def Join.withType (type : JoinType) (j : Join) : Join := { j with joinType := type }

theorem tip_withType (type : JoinType) (source : Source) (js : List Join) :
    tip source (js.map (Join.withType type)) = tip source js := by
  induction js generalizing source with
  | nil => rfl
  | cons j js ih => exact ih j.source

namespace Criteria

variable {type : JoinType} {c d : Criteria} {a : Operand} {path : String} {segments : List String}

theorem chain_withType (h : Later 0 c d) (type type' : JoinType) (parent : Source)
    (names : List String) :
    chain type' d parent names = (chain type c parent names).map (Join.withType type') := by
  induction names generalizing c d parent with
  | nil => rfl
  | cons name rest ih =>
    have hnext : d.nextJoin parent name type' =
        (c.nextJoin parent name type).withType type' := by
      unfold nextJoin Join.withType
      simp only [h.length_eq, h.dialect_eq, h.relationAt_eq, Nat.add_zero]
    -- The next alias depends on the number of joins only, not on their types.
    have hlater : Later 0 (c.withJoins [c.nextJoin parent name type])
        (d.withJoins [d.nextJoin parent name type']) := h.withJoins rfl
    have hsource : (d.nextJoin parent name type').source =
        (c.nextJoin parent name type).source := by
      rw [hnext]
      rfl
    rw [chain, chain, List.map_cons, ← hnext, hsource]
    exact congrArg _ (ih hlater _)

/-! ## Paths that are accepted -/

theorem length_segments_le_iff {p : DottedPath} {m : Nat} :
    p.segments.length ≤ m + 1 ↔ p.relations.length ≤ m := by
  rw [DottedPath.segments, List.length_append, List.length_singleton]
  omega

/-- **A declared path is accepted** if each segment has a character that is no blank, and there are
not too many. -/
theorem exists_resolve_iff {limit : Nat} (h : SegmentsOf path segments) :
    (∃ a d, RelationPath.resolve backend type limit path c = .ok a d) ↔
      (∀ s ∈ segments, ∃ char ∈ s.toList, Text.isBlank char = false) ∧
        segments.length ≤ limit + 1 := by
  have hblank : ∀ s : String, Text.allBlank s = false ↔
      ∃ char ∈ s.toList, Text.isBlank char = false := by
    intro s
    simp [Text.allBlank]
  obtain rfl := segmentsOf_iff.1 h
  simp only [resolve_eq_ok_iff, length_segments_le_iff, ← hblank]
  constructor
  · rintro ⟨a, d, ⟨-, hink, hle⟩, -⟩
    exact ⟨hink, hle⟩
  · rintro ⟨hink, hle⟩
    refine ⟨_, _, ⟨?_, hink, hle⟩, rfl, rfl⟩
    rintro rfl
    exact absurd (hink "" (by decide)) (by decide)

/-- **A sort key is accepted** if no segment is empty, and there are not too many. -/
theorem exists_sortOperand_iff_segments (h : SegmentsOf path segments) :
    (∃ a d, sortOperand path c = .ok a d) ↔
      (∀ s ∈ segments, s ≠ "") ∧ segments.length ≤ c.maxDepth + 1 := by
  obtain rfl := segmentsOf_iff.1 h
  rw [exists_sortOperand_iff, length_segments_le_iff]
  simp only [readSortKey_eq_ok_iff, exists_eq_left]

/-! ## The same column through the same joins -/

theorem sortOperand_of_resolve (fresh : c.joins = [])
    (h : RelationPath.resolve backend type c.maxDepth path c = .ok a d) :
    sortOperand path c = .ok a { d with joins := d.joins.map (Join.withType .left) } := by
  have hsegments : SegmentsOf path (DottedPath.split path).segments := segmentsOf_iff.2 rfl
  have hsame : Later 0 c c := ⟨rfl, rfl, rfl⟩
  obtain ⟨hink, hle⟩ := (exists_resolve_iff hsegments).1 ⟨a, d, h⟩
  have hne : ∀ s ∈ (DottedPath.split path).segments, s ≠ "" := by
    rintro s hs rfl
    obtain ⟨char, hchar, -⟩ := hink "" hs
    exact absurd hchar (by simp)
  obtain ⟨b, e, hb⟩ := (exists_sortOperand_iff_segments (c := c) hsegments).2 ⟨hne, hle⟩
  obtain ⟨p, source, hp, hr, rfl⟩ := sortOperand_eq_ok_iff.1 hb
  obtain ⟨rfl, -⟩ := readSortKey_eq_ok_iff.1 hp
  have htree : JoinTree c.joins := fresh ▸ JoinTree.nil
  have hleaf : ∀ j ∈ c.joins, j.parentAlias ≠ Source.root.tableAlias := by simp [fresh]
  obtain ⟨rfl, rfl⟩ := reuseChain_of_leaf htree List.mem_cons_self hleaf hr
  obtain ⟨-, rfl, rfl⟩ := resolve_eq_ok_iff.1 h
  rw [hb, chain_withType hsame type .left, tip_withType]
  simp [withJoins, fresh]

/-- **Declared paths and sort keys are resolved alike**, on criteria without joins. A declared path is
accepted if each of its segments has a character that is no blank, and a sort key if no segment is
empty; neither may have more segments than one above the greatest depth. What a declared path
resolves to is what a sort key takes, through the same joins, which are left joins then. Only a
segment of blanks makes a difference. -/
theorem sortOperand_alike_resolve (c : Criteria) (fresh : c.joins = []) (type : JoinType)
    (path : String) : ∃ segments, SegmentsOf path segments ∧
      (∀ others, SegmentsOf path others → others = segments) ∧
      ((∃ a d, RelationPath.resolve backend type c.maxDepth path c = .ok a d) ↔
        (∀ s ∈ segments, ∃ char ∈ s.toList, Text.isBlank char = false) ∧
          segments.length ≤ c.maxDepth + 1) ∧
      ((∃ a d, sortOperand path c = .ok a d) ↔
        (∀ s ∈ segments, s ≠ "") ∧ segments.length ≤ c.maxDepth + 1) ∧
      (∀ a d, RelationPath.resolve backend type c.maxDepth path c = .ok a d →
        sortOperand path c = .ok a { d with joins := d.joins.map (Join.withType .left) }) ∧
      ((∃ a d, sortOperand path c = .ok a d) →
        (∃ a d, RelationPath.resolve backend type c.maxDepth path c = .ok a d) ∨
          ∃ s ∈ segments, s ≠ "" ∧ ∀ char ∈ s.toList, Text.isBlank char = true) := by
  have hsegments : SegmentsOf path (DottedPath.split path).segments := segmentsOf_iff.2 rfl
  refine ⟨_, hsegments, fun _ => segmentsOf_iff.1, exists_resolve_iff hsegments,
    exists_sortOperand_iff_segments hsegments, fun _ _ => sortOperand_of_resolve fresh,
    fun hkey => ?_⟩
  obtain ⟨hne, hle⟩ := (exists_sortOperand_iff_segments hsegments).1 hkey
  by_cases hink : ∀ s ∈ (DottedPath.split path).segments,
      ∃ char ∈ s.toList, Text.isBlank char = false
  · exact .inl ((exists_resolve_iff hsegments).2 ⟨hink, hle⟩)
  · obtain ⟨s, hink⟩ := not_forall.1 hink
    obtain ⟨hs, hink⟩ := Classical.not_imp.1 hink
    refine .inr ⟨s, hs, hne s hs, fun char hchar => ?_⟩
    by_contra hblank
    exact hink ⟨char, hchar, Bool.eq_false_iff.2 hblank⟩

/-- A relation that is followed twice is joined twice, by a declared path as by a sort key. A blank
attribute is one for sort keys only. -/
theorem sortOperand_alike_resolve_people :
    (∃ d, RelationPath.resolve backend .inner 8 "account.account.name" people =
        .ok (.column "j2" "name") d ∧
      d.joins.map (fun j => (j.joinType, j.parentAlias, j.tableAlias)) =
        [(.inner, "t0", "j1"), (.inner, "j1", "j2")] ∧
      sortOperand "account.account.name" people = .ok (.column "j2" "name")
        { d with joins := d.joins.map (Join.withType .left) }) ∧
    (∃ a d, sortOperand "account. " people = .ok a d) ∧
    ¬ ∃ a d, RelationPath.resolve backend .inner 8 "account. " people = .ok a d := by
  constructor
  · obtain ⟨a, d, h, hcheck⟩ := exists_of_passes
      (RelationPath.resolve backend .inner 8 "account.account.name" people)
      (fun a d => a == .column "j2" "name" &&
        d.joins.map (fun j => (j.joinType, j.parentAlias, j.tableAlias)) ==
          [(.inner, "t0", "j1"), (.inner, "j1", "j2")]) (by decide +kernel)
    rw [Bool.and_eq_true, beq_iff_eq, beq_iff_eq] at hcheck
    obtain ⟨rfl, hjoins⟩ := hcheck
    obtain ⟨_, -, -, -, -, hsame, -⟩ :=
      sortOperand_alike_resolve people rfl .inner "account.account.name"
    exact ⟨d, h, hjoins, hsame _ d h⟩
  · obtain ⟨segments, hsegments, -, hpath, hkey, -⟩ :=
      sortOperand_alike_resolve people rfl .inner "account. "
    have hcut : segments = ["account", " "] := by
      rw [segmentsOf_iff.1 hsegments]
      decide +kernel
    rw [hcut] at hpath hkey
    refine ⟨hkey.2 (by decide), fun h => ?_⟩
    obtain ⟨char, hchar, hink⟩ := (hpath.1 h).1 " " (by simp)
    obtain rfl : char = ' ' := by simpa using hchar
    exact absurd hink (by decide)

end Criteria

end FilterQuery.Sql

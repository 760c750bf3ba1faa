import FilterQuery.Proofs.Compile.Fields

/-!
# A block of joins for each field

Each active field gets joins of its own, and its predicate is built on the column at the end of
them.

* `Built.getElem?_block`, `Built.getElem?_build`: block and predicate of one field among others;
* `Built.nodup_alias`: no two joins of a compilation have one alias;
* `FieldCompiled`: what becomes of one field;
* **`compile_blocks`**: constraint and joins of a compilation, field by field.
-/

namespace FilterQuery

open Sql

variable {c : Compiler} {s : Criteria} {fields : List (Declaration × Input)}
  {blocks : List (List Join)} {ps : List Constraint}

theorem tableAlias_tip (source : Source) (js : List Join) : (tip source js).tableAlias =
    (js.getLast?.map Join.tableAlias).getD source.tableAlias := by
  induction js generalizing source with
  | nil => rfl
  | cons j js ih =>
    rw [tip, ih]
    cases js with
    | nil => rfl
    | cons k js =>
      rw [List.getLast?_cons_cons]
      obtain ⟨l, hl⟩ := Option.isSome_iff_exists.1 (List.getLast?_isSome.2 (List.cons_ne_nil k js))
      rw [hl]
      rfl

namespace Built

theorem getElem?_block (h : Built c s fields blocks ps) {i : Nat} {d : Declaration} {input : Input}
    {block : List Join} (hf : fields[i]? = some (d, input)) (hb : blocks[i]? = some block) :
    block = c.block (s.withJoins (blocks.take i).flatten) d := by
  induction h generalizing i with
  | nil => cases hf
  | @cons s d' _ _ _ blocks _ _ _ _ ih =>
    cases i with
    | zero =>
      cases hf
      cases hb
      rw [List.take_zero, List.flatten_nil, Criteria.withJoins_nil]
    | succ i =>
      rw [List.take_succ_cons, List.flatten_cons, ← Criteria.withJoins_withJoins]
      exact ih hf hb

theorem getElem?_build (h : Built c s fields blocks ps) {i : Nat} {d : Declaration} {input : Input}
    {block : List Join} {p : Constraint} (hf : fields[i]? = some (d, input))
    (hb : blocks[i]? = some block) (hp : ps[i]? = some p) :
    d.operation.build Criteria.backend c.context (.column (tip .root block).tableAlias d.leaf) input
        (s.withJoins (blocks.take (i + 1)).flatten) =
      .ok p (s.withJoins (blocks.take (i + 1)).flatten) := by
  induction h generalizing i with
  | nil => cases hf
  | @cons s d' _ _ _ blocks _ _ build _ ih =>
    cases i with
    | zero =>
      cases hf
      cases hb
      cases hp
      rw [List.take_succ_cons, List.take_zero, List.flatten_singleton]
      exact build
    | succ i =>
      rw [List.take_succ_cons, List.flatten_cons, ← Criteria.withJoins_withJoins]
      exact ih hf hb hp

theorem map_alias (h : Built c s fields blocks ps) : blocks.flatten.map Join.tableAlias =
    (List.range' (s.joins.length + 1) blocks.flatten.length).map joinAlias := by
  induction h with
  | nil => rfl
  | @cons s d _ _ _ blocks _ _ _ _ ih =>
    have hl : (c.located s d).joins.length = s.joins.length + (c.block s d).length :=
      List.length_append
    rw [List.flatten_cons, List.map_append, ih, hl, Compiler.block, Criteria.map_alias_chain,
      List.length_append, Criteria.length_chain, ← List.map_append,
      Nat.add_right_comm s.joins.length, ← List.range'_append_1]

theorem nodup_alias (h : Built c s fields blocks ps) :
    (blocks.flatten.map Join.tableAlias).Nodup := by
  rw [h.map_alias]
  exact (List.nodup_range' 1 (by decide)).map joinAlias_injective

end Built

/-- What becomes of a field that is compiled after the joins `before`: a block with the relations
of its path, numbered on, and a predicate on the last join of the block, or on the root if the block
is empty. -/
def FieldCompiled (c : Compiler) (s : Criteria) (before block : List Join) (d : Declaration)
    (input : Input) (p : Constraint) : Prop :=
  ∃ (relations : List String) (leaf : String), d.Targets relations leaf ∧
    IsBlock c.config.joinType (s.joins.length + before.length) relations block ∧
    d.operation.build Criteria.backend c.context
        (.column ((block.getLast?.map Join.tableAlias).getD rootAlias) leaf) input
        (s.withJoins (before ++ block)) =
      .ok p (s.withJoins (before ++ block))

theorem Built.fieldCompiled (h : Built c s fields blocks ps) {i : Nat} {d : Declaration}
    {input : Input} {block : List Join} {p : Constraint} (hf : fields[i]? = some (d, input))
    (hb : blocks[i]? = some block) (hp : ps[i]? = some p) :
    FieldCompiled c s (blocks.take i).flatten block d input p := by
  refine ⟨d.relations, d.leaf, d.targets_split, ?_, ?_⟩
  · have hchain := Criteria.isBlock_chain c.config.joinType
      (s.withJoins (blocks.take i).flatten) d.relations
    rw [Criteria.joins_withJoins, List.length_append] at hchain
    rw [h.getElem?_block hf hb]
    exact hchain
  · have hbuild := h.getElem?_build hf hb hp
    have htake : (blocks.take (i + 1)).flatten = (blocks.take i).flatten ++ block := by
      rw [List.take_add_one, hb, Option.toList_some, List.flatten_append, List.flatten_singleton]
    rw [tableAlias_tip, htake] at hbuild
    exact hbuild

/-- **Constraint and joins of a compilation.** The constraint is the conjunction of a predicate for
each field that holds a value, and the joins are those before and then a block for each such field,
in the order of their declarations. -/
theorem compile_blocks {F : Type} (c : Compiler) (t : FilterType F) (object : F)
    (page : PageRequest) {s s' : Criteria} {r : Compiled Constraint}
    (h : c.compile Criteria.backend t object page s = .ok r s') :
    ∃ (fields : List (Declaration × Input)) (blocks : List (List Join)) (ps : List Constraint),
      fields = t.declarations.fields.filterMap (Field.held object) ∧
      blocks.length = fields.length ∧ ps.length = fields.length ∧
      r.constraint = .and ps ∧ s' = s.withJoins blocks.flatten ∧
      (blocks.flatten.map Join.tableAlias).Nodup ∧
      ∀ i d input block p, fields[i]? = some (d, input) → blocks[i]? = some block →
        ps[i]? = some p → FieldCompiled c s (blocks.take i).flatten block d input p := by
  obtain ⟨hk, -⟩ := compile_eq_ok_iff.1 h
  obtain ⟨fields, blocks, ps, hactive, hb, hand, hs⟩ := constraint_eq_ok_iff.1 hk
  obtain ⟨-, hfields⟩ := Declarations.active_eq_ok_iff.1 hactive
  exact ⟨fields, blocks, ps, hfields, hb.length_eq.1, hb.length_eq.2, hand, hs, hb.nodup_alias,
    fun i d input block p hf hblock hp => hb.fieldCompiled hf hblock hp⟩

/-- Two fields of the example follow the same relation, each by a join of its own. -/
theorem compile_blocks_sharing : ∃ r s',
    (Compiler.atEpoch .inner).compile Criteria.backend sharing () {} people = .ok r s' ∧
    s'.joins.map (fun j => (j.parentAlias, j.name, j.tableAlias)) =
      [("t0", "account", "j1"), ("t0", "account", "j2"), ("j2", "owner", "j3")] ∧
    ∃ (fields : List (Declaration × Input)) (blocks : List (List Join)) (ps : List Constraint),
      fields = sharing.declarations.fields.filterMap (Field.held ()) ∧
      blocks.length = fields.length ∧ ps.length = fields.length ∧
      r.constraint = .and ps ∧ s' = people.withJoins blocks.flatten ∧
      (blocks.flatten.map Join.tableAlias).Nodup ∧
      ∀ i d input block p, fields[i]? = some (d, input) → blocks[i]? = some block →
        ps[i]? = some p →
        FieldCompiled (.atEpoch .inner) people (blocks.take i).flatten block d input p := by
  obtain ⟨r, s', h, hjoins⟩ := exists_of_passes
    ((Compiler.atEpoch .inner).compile Criteria.backend sharing () {} people)
    (fun _ s => s.joins.map (fun j => (j.parentAlias, j.name, j.tableAlias)) ==
      [("t0", "account", "j1"), ("t0", "account", "j2"), ("j2", "owner", "j3")])
    (by decide +kernel)
  exact ⟨r, s', h, beq_iff_eq.1 hjoins, compile_blocks _ _ _ _ h⟩

end FilterQuery

import FilterQuery.Proofs.Compile.Fields
import FilterQuery.Proofs.Rows.Database

/-!
# Conjunction as intersection

A row is selected by all fields of a filter together if each of them alone selects it. Fields do not
get into each other's way since each has joins of its own.

* `Database.ends`: the rows to which joins lead from a row; **`Database.exists_joined_iff`**;
* `Clause.Holds`, `Clause.truth_constraint_eq_holds_iff`: a clause looks at one row only;
* `Compiler.Selects`: a field selects a row of the root table; **`Built.exists_joined_iff`**;
* **`mem_rows_iff_forall_only`**: conjunction is intersection.
-/

namespace FilterQuery

open Sql

variable {V : Type}

/-! ## Rows at the end of joins -/

/-- The rows to which joins lead from a row. -/
def Sql.Database.ends (db : Database V) : List (JoinType × Relation) → Row V → List (Row V)
  | [], r => [r]
  | (type, relation) :: rest, r => (db.partners type relation r).flatMap (db.ends rest)

variable {db : Database V}

/-- **The last of linked joins puts the rows at their end beside a row.** -/
theorem Sql.Database.exists_joined_iff {source : Source} {js : List Join} {e : Env V}
    {p : Row V → Prop} (h : Linked source js) :
    (∃ e' ∈ db.joined [e] js, p (e' (tip source js).tableAlias)) ↔
      ∃ row ∈ db.ends (js.map Join.hop) (e source.tableAlias), p row := by
  induction js generalizing source e with
  | nil => simp [tip, Database.ends]
  | cons j js ih =>
    obtain ⟨hp, hjs⟩ := h
    have hstep : ∀ r : Row V,
        (∃ e' ∈ db.joined [Function.update e j.tableAlias r] js,
          p (e' (tip j.source js).tableAlias)) ↔ ∃ row ∈ db.ends (js.map Join.hop) r, p row := by
      intro r
      rw [ih hjs, show j.source.tableAlias = j.tableAlias from rfl, Function.update_self]
    simp only [Database.mem_joined_cons, List.map_cons, Join.hop, Database.ends, List.mem_flatMap,
      tip, hp]
    constructor
    · rintro ⟨e', ⟨r, hr, he⟩, hq⟩
      obtain ⟨row, hrow, hq'⟩ := (hstep r).1 ⟨e', he, hq⟩
      exact ⟨row, ⟨r, hr, hrow⟩, hq'⟩
    · rintro ⟨row, ⟨r, hr, hrow⟩, hq⟩
      obtain ⟨e', he, hq'⟩ := (hstep r).2 ⟨row, hrow, hq⟩
      exact ⟨e', ⟨r, hr, he⟩, hq'⟩

/-! ## Clauses on rows -/

/-- A cell in a view. -/
def View.cell (g : Engine V) (cell : Option V) : View → Option V
  | plain => cell
  | lower => cell.bind g.lower
  | instant => cell.bind g.instant

theorem View.cell_operand {g : Engine V} {e : Env V} (view : View) (a : Operand) :
    (view.operand a).cell g e = view.cell g (a.cell g e) := by
  cases view <;> rfl

/-- The clause of an operator holds for a column of a row. -/
def Clause.Holds (g : Engine V) (op : Operation) (leaf : String) (clause : Clause) (row : Row V) :
    Prop :=
  (clause.constraint (op.look (.column rootAlias leaf))).truth (g.judge (Env.root row)) = .holds

theorem Clause.truth_constraint {g : Engine V} {op : Operation} {clause : Clause} {e e' : Env V}
    {q q' leaf : String} (h : e q = e' q') :
    (clause.constraint (op.look (.column q leaf))).truth (g.judge e) =
      (clause.constraint (op.look (.column q' leaf))).truth (g.judge e') := by
  have hlook : (op.look (.column q leaf)).cell g e = (op.look (.column q' leaf)).cell g e' := by
    unfold Operation.look
    split
    · rw [Operand.cell, Operand.cell, Operand.cell, Operand.cell, h]
    · rw [Operand.cell, Operand.cell, h]
  have hview : ((clause.view.operand (op.look (.column q leaf))).cell g e) =
      (clause.view.operand (op.look (.column q' leaf))).cell g e' := by
    rw [View.cell_operand, View.cell_operand, hlook]
  have hjudge : ∀ t, g.judge e (clause.view.operand (op.look (.column q leaf))) t =
      g.judge e' (clause.view.operand (op.look (.column q' leaf))) t := fun t => by
    rw [Engine.judge, Engine.judge, hview]
  unfold Clause.constraint
  cases clause.shape <;>
    simp only [Shape.constraint, Constraint.truth, Constraint.truthAll, Constraint.truthAny, hjudge]

/-- **The constraint of a clause looks at the row of its column only.** -/
theorem Clause.truth_constraint_eq_holds_iff {g : Engine V} {op : Operation} {clause : Clause}
    {e : Env V} {q leaf : String} :
    (clause.constraint (op.look (.column q leaf))).truth (g.judge e) = .holds ↔
      clause.Holds g op leaf (e q) := by
  rw [Clause.Holds, Clause.truth_constraint (Env.root_rootAlias (e q)).symm]

/-! ## Fields on rows -/

/-- A field selects a row of the root table: its clause holds for a row at the end of its
relations. -/
def Compiler.Selects (c : Compiler) (s : Criteria) (db : Database V) (d : Declaration)
    (input : Input) (r : Row V) : Prop :=
  ∃ clause, d.operation.clause c.context input = .ok clause ∧
    ∃ row ∈ db.ends ((c.block s d).map Join.hop) r, clause.Holds db.engine d.operation d.leaf row

variable {c : Compiler} {s s' : Criteria}

theorem Compiler.selects_withJoins {d : Declaration} {input : Input} {r : Row V} (js : List Join) :
    c.Selects (s.withJoins js) db d input r ↔ c.Selects s db d input r := by
  unfold Compiler.Selects Compiler.block
  rw [Criteria.map_hop_chain]

/-- **What compiled fields do to a row.** -/
theorem Built.exists_joined_iff {fields : List (Declaration × Input)} {blocks : List (List Join)}
    {ps : List Constraint} (h : Built c s fields blocks ps) (hs : Numbered s.joins) (e : Env V) :
    (∃ e' ∈ db.joined [e] blocks.flatten, ∀ p ∈ ps, p.truth (db.engine.judge e') = .holds) ↔
      ∀ f ∈ fields, c.Selects s db f.1 f.2 (e rootAlias) := by
  induction h generalizing e with
  | nil => simp
  | @cons s d input p rest blocks ps ha build tail ih =>
    obtain ⟨-, clause, hc, rfl⟩ := (Compiler.build_located_eq_ok_iff hs ha).1 build
    have hg : Numbered (s.joins ++ c.block s d ++ blocks.flatten) :=
      tail.numbered (Compiler.numbered_located hs)
    have hlinked : Linked .root (c.block s d) := Criteria.linked_chain _ _ _ _
    have hblock : Source.root.tableAlias ∉ (c.block s d).map Join.tableAlias :=
      (Compiler.numbered_located hs).alias_notMem List.mem_cons_self
    -- The tables of later blocks have other aliases than the one that the predicate looks at.
    have htip : (tip .root (c.block s d)).tableAlias ∉ blocks.flatten.map Join.tableAlias :=
      hg.alias_notMem (Criteria.tip_chain_mem_sources List.mem_cons_self)
    have hrest : ∀ e₁ ∈ db.joined [e] (c.block s d),
        (∃ e' ∈ db.joined [e₁] blocks.flatten, ∀ p ∈ ps, p.truth (db.engine.judge e') = .holds) ↔
          ∀ f ∈ rest, c.Selects s db f.1 f.2 (e rootAlias) := by
      intro e₁ he₁
      have hroot : e₁ rootAlias = e rootAlias := Database.joined_apply_of_notMem he₁ hblock
      rw [ih (Compiler.numbered_located hs) e₁, hroot]
      simp only [Compiler.located, Compiler.selects_withJoins]
    have hfirst : (∃ e₁ ∈ db.joined [e] (c.block s d),
        clause.Holds db.engine d.operation d.leaf (e₁ (tip .root (c.block s d)).tableAlias)) ↔
          c.Selects s db d input (e rootAlias) := by
      rw [Database.exists_joined_iff hlinked]
      simp only [Compiler.Selects, hc, Except.ok.injEq, exists_eq_left']
      rfl
    rw [List.flatten_cons, List.forall_mem_cons, ← hfirst]
    simp only [List.forall_mem_cons, Compiler.column, Clause.truth_constraint_eq_holds_iff,
      Database.mem_joined_append]
    constructor
    · rintro ⟨e', ⟨e₁, he₁, he'⟩, hp, hps⟩
      rw [Database.joined_apply_of_notMem he' htip] at hp
      exact ⟨⟨e₁, he₁, hp⟩, (hrest e₁ he₁).1 ⟨e', he', hps⟩⟩
    · rintro ⟨⟨e₁, he₁, hp⟩, hf⟩
      obtain ⟨e', he', hps⟩ := (hrest e₁ he₁).2 hf
      refine ⟨e', ⟨e₁, he₁, he'⟩, ?_, hps⟩
      rwa [Database.joined_apply_of_notMem he' htip]

/-! ## All fields -/

/-- A compilation selects the rows of the root table that each active field selects. -/
theorem mem_rows_iff_forall_selects {F : Type} {t : FilterType F} {object : F} {k : Constraint}
    (fresh : s.joins = []) (h : c.constraint Criteria.backend t object s = .ok k s') {r : Row V} :
    r ∈ (s'.selection k).rows db ↔ r ∈ db.rows s.table ∧
      ∀ f ∈ t.declarations.fields.filterMap (Field.held object), c.Selects s db f.1 f.2 r := by
  obtain ⟨fields, blocks, ps, hactive, hb, rfl, rfl⟩ := constraint_eq_ok_iff.1 h
  obtain ⟨-, rfl⟩ := Declarations.active_eq_ok_iff.1 hactive
  have hs : Numbered s.joins := fresh ▸ Numbered.nil
  have hj : (s.withJoins blocks.flatten).joins = blocks.flatten := by
    rw [Criteria.joins_withJoins, fresh, List.nil_append]
  have hg : Numbered (s.withJoins blocks.flatten).joins := hb.numbered hs
  have hrow : (∃ e' ∈ db.joined [Env.root r] blocks.flatten,
      ∀ p ∈ ps, p.truth (db.engine.judge e') = .holds) ↔ _ := hb.exists_joined_iff hs (Env.root r)
  rw [Env.root_rootAlias] at hrow
  rw [Selection.mem_rows hg.rootAlias_notMem, ← hrow]
  simp only [Criteria.selection, Criteria.table_withJoins, hj, Constraint.truth_and_eq_holds_iff]

/-- The filter type with one of its fields only. -/
def FilterType.only {F : Type} (t : FilterType F) (f : Field F) : FilterType F := ⟨t.name, ⟨[f]⟩⟩

theorem constraint_only {F : Type} {t : FilterType F} {object : F} {k : Constraint}
    (hs : Numbered s.joins) (h : c.constraint Criteria.backend t object s = .ok k s') {f : Field F}
    (hf : f ∈ t.declarations.fields) :
    ∃ k₁ s₁, c.constraint Criteria.backend (t.only f) object s = .ok k₁ s₁ := by
  obtain ⟨fields, blocks, ps, hactive, hb, -, -⟩ := constraint_eq_ok_iff.1 h
  obtain ⟨hread, rfl⟩ := Declarations.active_eq_ok_iff.1 hactive
  have hall := (exists_built_iff hs).1 ⟨blocks, ps, hb⟩
  have honly : ∀ g ∈ [f].filterMap (Field.held object), c.Compiles s g.1 g.2 := by
    intro g hg
    obtain ⟨f', hf', he⟩ := List.mem_filterMap.1 hg
    obtain rfl := List.mem_singleton.1 hf'
    exact hall g (List.mem_filterMap.2 ⟨f', hf, he⟩)
  obtain ⟨blocks₁, ps₁, hb₁⟩ := (exists_built_iff hs).2 honly
  refine ⟨_, _, constraint_eq_ok_iff.2 ⟨_, blocks₁, ps₁, ?_, hb₁, rfl, rfl⟩⟩
  refine Declarations.active_eq_ok_iff.2 ⟨fun f' hf' => ?_, rfl⟩
  obtain rfl := List.mem_singleton.1 hf'
  exact hread f' hf

/-- **Conjunction is intersection.** Each active field of a compiled object compiles alone as well,
and a row of the root table is selected by all active fields together if and only if each of them
alone selects it. -/
theorem mem_rows_iff_forall_only {F : Type} (c : Compiler) (t : FilterType F) (object : F)
    {s s' : Criteria} {k : Constraint} (fresh : s.joins = [])
    (h : c.constraint Criteria.backend t object s = .ok k s') (db : Database V) {r : Row V}
    (hr : r ∈ db.rows s.table) :
    (∀ f ∈ t.declarations.fields, (f.held object).isSome →
      ∃ k₁ s₁, c.constraint Criteria.backend (t.only f) object s = .ok k₁ s₁) ∧
    (r ∈ (s'.selection k).rows db ↔ ∀ f ∈ t.declarations.fields, (f.held object).isSome →
      ∀ k₁ s₁, c.constraint Criteria.backend (t.only f) object s = .ok k₁ s₁ →
        r ∈ (s₁.selection k₁).rows db) := by
  have hs : Numbered s.joins := fresh ▸ Numbered.nil
  have hall : ∀ f ∈ t.declarations.fields,
      ∃ k₁ s₁, c.constraint Criteria.backend (t.only f) object s = .ok k₁ s₁ :=
    fun f hf => constraint_only hs h hf
  refine ⟨fun f hf _ => hall f hf, ?_⟩
  rw [mem_rows_iff_forall_selects fresh h]
  constructor
  · rintro ⟨-, hsel⟩ f hf - k₁ s₁ h₁
    rw [mem_rows_iff_forall_selects fresh h₁]
    refine ⟨hr, fun g hg => hsel g ?_⟩
    obtain ⟨f', hf', he⟩ := List.mem_filterMap.1 hg
    obtain rfl := List.mem_singleton.1 hf'
    exact List.mem_filterMap.2 ⟨f', hf, he⟩
  · intro hone
    refine ⟨hr, fun g hg => ?_⟩
    obtain ⟨f, hf, he⟩ := List.mem_filterMap.1 hg
    obtain ⟨k₁, s₁, h₁⟩ := hall f hf
    have hsel := hone f hf (by rw [he]; rfl) k₁ s₁ h₁
    rw [mem_rows_iff_forall_selects fresh h₁] at hsel
    exact hsel.2 g (List.mem_filterMap.2 ⟨f, List.mem_singleton_self f, he⟩)

/-- All fields of the example together select one person. -/
theorem mem_rows_iff_forall_only_sharing : ∃ k s',
    (Compiler.atEpoch .inner).constraint Criteria.backend sharing () people = .ok k s' ∧
    ((s'.selection k).rows Database.sample).map (fun r => r "name") = [some "Max"] ∧
    (∀ f ∈ sharing.declarations.fields, (f.held ()).isSome → ∃ k₁ s₁,
      (Compiler.atEpoch .inner).constraint Criteria.backend (sharing.only f) () people =
        .ok k₁ s₁) ∧
    (Row.max ∈ (s'.selection k).rows Database.sample ↔
      ∀ f ∈ sharing.declarations.fields, (f.held ()).isSome → ∀ k₁ s₁,
        (Compiler.atEpoch .inner).constraint Criteria.backend (sharing.only f) () people =
          .ok k₁ s₁ → Row.max ∈ (s₁.selection k₁).rows Database.sample) := by
  obtain ⟨k, s', h, hrows⟩ := exists_of_passes
    ((Compiler.atEpoch .inner).constraint Criteria.backend sharing () people)
    (fun k s => ((s.selection k).rows Database.sample).map (fun r => r "name") == [some "Max"])
    (by decide +kernel)
  exact ⟨k, s', h, beq_iff_eq.1 hrows,
    mem_rows_iff_forall_only (.atEpoch .inner) sharing () rfl h Database.sample List.mem_cons_self⟩

end FilterQuery

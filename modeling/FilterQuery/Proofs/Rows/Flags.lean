import FilterQuery.Proofs.Rows.Multiplicity
import FilterQuery.Proofs.Sql.Growth

/-!
# Null tests whose flag is not set

Such a field tests nothing, but its relations are joined before its flag is read. The joins stay in
the statements, and a row is selected once for each row to which they lead.

* `Operation.testsNull`, `Input.unset`, **`Compiler.weight_unset`**: how often a flag that is not
  set selects a row;
* **`Built.rows_unset`**: the rows with the field and without it; `Built.exists_skip`: a field
  without relations leaves no trace;
* `Criteria.Paged`: both statements of a page, as selections; `Criteria.Paged.rows_eq`;
* `constraint_without`, **`rows_flag_unset`**: when the field can as well be left out.
-/

namespace FilterQuery

open Sql

variable {V : Type} {db : Database V} {c : Compiler} {s : Criteria}

/-! ## The clause of a flag -/

/-- The operator tests for null if its flag is set. -/
def Operation.testsNull (op : Operation) : Prop := op = .isNull ∨ op = .isNotNull

/-- A flag that is not set. -/
def Input.unset : Input := .scalar (.bool false)

theorem Operation.clause_unset {op : Operation} (h : op.testsNull) (ctx : PredicateContext) :
    op.clause ctx .unset = .ok ⟨.plain, .always⟩ := by
  rcases h with rfl | rfl <;> rfl

/-- **A flag that is not set selects a row once for each row at the end of its relations.** -/
theorem Compiler.weight_unset {d : Declaration} (h : d.operation.testsNull) (r : Row V) :
    c.weight s db d .unset r = (db.ends ((c.block s d).map Join.hop) r).length := by
  rw [Compiler.weight, Operation.clause_unset h]
  exact List.countP_eq_length.2 fun row _ => decide_eq_true rfl

/-! ## One field less -/

section

variable {before after : List (Declaration × Input)} {d : Declaration} {input : Input}

theorem Compiler.multiplicity_unset (h : d.operation.testsNull) (r : Row V) :
    c.multiplicity s db (before ++ (d, .unset) :: after) r =
      c.multiplicity s db (before ++ after) r *
        (db.ends ((c.block s d).map Join.hop) r).length := by
  unfold Compiler.multiplicity
  rw [← Compiler.weight_unset h r]
  simp only [List.map_append, List.map_cons, List.prod_append, List.prod_cons]
  ac_rfl

/-- **The rows with the field are those without it**, each of them repeated for the rows at the end
of its relations. -/
theorem Built.rows_unset {blocks blocks' : List (List Join)} {ps ps' : List Constraint}
    (hd : d.operation.testsNull) (hs : Numbered s.joins)
    (h : Built c s (before ++ (d, .unset) :: after) blocks ps)
    (h' : Built c s (before ++ after) blocks' ps') :
    ((s.withJoins blocks.flatten).selection (.and ps)).rows db =
      (((s.withJoins blocks'.flatten).selection (.and ps')).rows db).flatMap fun row =>
        List.replicate (db.ends ((c.block s d).map Join.hop) row).length row := by
  rw [h.rows_eq hs, h'.rows_eq hs, List.flatMap_assoc]
  refine List.flatMap_congr fun r _ => ?_
  rw [Compiler.multiplicity_unset hd, List.flatMap_replicate, List.flatten_replicate_replicate]

theorem Built.exists_left_out (hs : Numbered s.joins) {blocks : List (List Join)}
    {ps : List Constraint} (h : Built c s (before ++ (d, input) :: after) blocks ps) :
    ∃ blocks' ps', Built c s (before ++ after) blocks' ps' := by
  rw [exists_built_iff hs]
  intro f hf
  refine (exists_built_iff hs).1 ⟨blocks, ps, h⟩ f ?_
  rcases List.mem_append.1 hf with hf | hf
  · exact List.mem_append_left _ hf
  · exact List.mem_append_right _ (List.mem_cons_of_mem _ hf)

/-- **A flag that is not set leaves no trace if its field has no relations.** -/
theorem Built.exists_skip (hd : d.operation.testsNull) (hr : d.relations = [])
    (hs : Numbered s.joins) {blocks : List (List Join)} {ps : List Constraint}
    (h : Built c s (before ++ (d, .unset) :: after) blocks ps) :
    ∃ blocks' ps', Built c s (before ++ after) blocks' ps' ∧
      blocks'.flatten = blocks.flatten ∧ Constraint.and ps' = .and ps := by
  suffices hskip : ∃ blocks' ps', Built c s (before ++ after) blocks' ps' ∧
      blocks'.flatten = blocks.flatten ∧
      ps'.filter (!·.isAlways) = ps.filter (!·.isAlways) by
    obtain ⟨blocks', ps', hb, hjoins, hps⟩ := hskip
    exact ⟨blocks', ps', hb, hjoins, by rw [Constraint.and, Constraint.and, hps]⟩
  induction before generalizing s blocks ps with
  | nil =>
    cases h with
    | @cons _ _ _ p _ blocks ps ha build tail =>
      have hblock : c.block s d = [] := by rw [Compiler.block, hr]; rfl
      have hp : p = .always := by
        obtain ⟨-, clause, hc, rfl⟩ := (Compiler.build_located_eq_ok_iff hs ha).1 build
        rw [Operation.clause_unset hd, Except.ok.injEq] at hc
        rw [← hc]
        rfl
      rw [Compiler.located, hblock, Criteria.withJoins_nil] at tail
      refine ⟨blocks, ps, tail, ?_, ?_⟩
      · rw [hblock, List.flatten_cons, List.nil_append]
      · rw [hp]
        rfl
  | cons f before ih =>
    cases h with
    | cons ha build tail =>
      obtain ⟨blocks', ps', hb, hjoins, hps⟩ := ih (Compiler.numbered_located hs) tail
      refine ⟨_, _, .cons ha build hb, ?_, ?_⟩
      · rw [List.flatten_cons, List.flatten_cons, hjoins]
      · rw [List.filter_cons, List.filter_cons, hps]

theorem Built.exists_without (hd : d.operation.testsNull) (hs : Numbered s.joins)
    {blocks : List (List Join)} {ps : List Constraint}
    (h : Built c s (before ++ (d, .unset) :: after) blocks ps) :
    ∃ blocks' ps', Built c s (before ++ after) blocks' ps' ∧ (d.relations = [] →
      blocks'.flatten = blocks.flatten ∧ Constraint.and ps' = .and ps) := by
  by_cases hr : d.relations = []
  · obtain ⟨blocks', ps', hb, htrace⟩ := h.exists_skip hd hr hs
    exact ⟨blocks', ps', hb, fun _ => htrace⟩
  · obtain ⟨blocks', ps', hb⟩ := h.exists_left_out hs
    exact ⟨blocks', ps', hb, fun hnil => absurd hnil hr⟩

end

/-! ## Statements of a page -/

/-- Both statements of a page, as selections. The order takes the joins `added` beside those that
the constraint has. -/
structure Sql.Criteria.Paged (s : Criteria) (k : Constraint) (page : PageRequest) (q : SelectQuery)
    (added : List Join) : Prop where
  full : ∃ order, Criteria.sortOperands page.sort s = .ok order (s.withJoins added) ∧
    q.sql = "SELECT t0.*" ++ ((s.withJoins added).selection k).sql s.dialect ++
      (orderClause s.dialect order ++ " " ++ page.clause)
  count : q.countSql = "SELECT COUNT(*)" ++ (s.selection k).sql s.dialect

theorem Sql.Criteria.exists_finish_iff {k : Constraint} {page : PageRequest} :
    (∃ q, s.finish k page = .ok q) ↔
      ∀ key ∈ page.sort, ∃ p, Criteria.readSortKey s.maxDepth key.column = .ok p := by
  rw [← Criteria.exists_sortOperands_iff]
  simp only [Criteria.finish_eq_ok_iff]
  constructor
  · rintro ⟨_, order, s', hsort, -⟩
    exact ⟨order, s', hsort⟩
  · rintro ⟨order, s', hsort⟩
    exact ⟨_, order, s', hsort, rfl⟩

theorem Sql.Criteria.exists_paged {k : Constraint} {page : PageRequest} {q : SelectQuery}
    (h : s.finish k page = .ok q) : ∃ added, s.Paged k page q added := by
  obtain ⟨order, s', hsort, rfl⟩ := Criteria.finish_eq_ok_iff.1 h
  obtain ⟨added, rfl, -⟩ := Criteria.hung_of_sortOperands hsort
  exact ⟨added, ⟨order, hsort, Criteria.select_eq.1⟩, Criteria.select_eq.2⟩

/-- **Both statements select the same rows** if each further join leads to one row at most. -/
theorem Sql.Criteria.Paged.rows_eq {fields : List (Declaration × Input)}
    {blocks : List (List Join)} {ps : List Constraint} {page : PageRequest} {q : SelectQuery}
    {added : List Join} (hb : Built c s fields blocks ps) (hs : Numbered s.joins)
    (h : (s.withJoins blocks.flatten).Paged (.and ps) page q added)
    (hone : ∀ j ∈ added, db.ToOne s.table (s.joins ++ blocks.flatten ++ added) j) :
    (((s.withJoins blocks.flatten).withJoins added).selection (.and ps)).rows db =
      ((s.withJoins blocks.flatten).selection (.and ps)).rows db := by
  obtain ⟨order, hsort, -⟩ := h.full
  obtain ⟨added', hadded, hhung⟩ := Criteria.hung_of_sortOperands hsort
  have heq : added = added' := List.append_cancel_left (congrArg Criteria.joins hadded)
  subst heq
  refine Selection.rows_hung hhung (hb.numbered hs) (fun a ha => ?_) hone
  obtain ⟨p, hp, ha⟩ := Constraint.mem_operands_and.1 ha
  exact hb.qualifier_mem hs p hp a ha

/-! ## The whole query -/

section

variable {F : Type} {object without : F} {before after : List (Field F)} {f : Field F}

theorem filterMap_held_unset (h : f.read object = .ok (some .unset)) :
    (before ++ f :: after).filterMap (Field.held object) =
      before.filterMap (Field.held object) ++
        (f.declaration, .unset) :: after.filterMap (Field.held object) := by
  have hf : f.held object = some (f.declaration, .unset) := by
    rw [Field.held, h]
    rfl
  rw [List.filterMap_append, List.filterMap_cons_some hf]

theorem filterMap_held_none (h : f.read without = .ok none)
    (hsame : ∀ g ∈ before ++ after, g.read without = g.read object) :
    (before ++ f :: after).filterMap (Field.held without) =
      before.filterMap (Field.held object) ++ after.filterMap (Field.held object) := by
  have hf : f.held without = none := by rw [Field.held, h]
  have hheld : ∀ g ∈ before ++ after, g.held without = g.held object := fun g hg => by
    rw [Field.held, Field.held, hsame g hg]
  rw [List.filterMap_append, List.filterMap_cons_none hf, ← List.filterMap_append,
    ← List.filterMap_append]
  exact List.filterMap_congr hheld

/-- A compiled filter with a flag that is not set, beside the same filter without it. -/
theorem constraint_without {t : FilterType F} {k : Constraint} {s' : Criteria}
    (hfields : t.declarations.fields = before ++ f :: after)
    (hop : f.declaration.operation.testsNull) (hflag : f.read object = .ok (some .unset))
    (hnone : f.read without = .ok none)
    (hsame : ∀ g ∈ before ++ after, g.read without = g.read object) (hs : Numbered s.joins)
    (h : c.constraint Criteria.backend t object s = .ok k s') :
    ∃ earlier later blocks ps blocks₀ ps₀,
      Built c s (earlier ++ (f.declaration, .unset) :: later) blocks ps ∧
      Built c s (earlier ++ later) blocks₀ ps₀ ∧
      k = .and ps ∧ s' = s.withJoins blocks.flatten ∧
      c.constraint Criteria.backend t without s =
        .ok (.and ps₀) (s.withJoins blocks₀.flatten) ∧
      (f.declaration.relations = [] →
        blocks₀.flatten = blocks.flatten ∧ Constraint.and ps₀ = .and ps) := by
  obtain ⟨fields, blocks, ps, hactive, hb, rfl, rfl⟩ := constraint_eq_ok_iff.1 h
  obtain ⟨hread, rfl⟩ := Declarations.active_eq_ok_iff.1 hactive
  rw [hfields, filterMap_held_unset hflag] at hb
  obtain ⟨blocks₀, ps₀, hb₀, htrace⟩ := hb.exists_without hop hs
  have hactive₀ : t.declarations.active without = .ok
      (before.filterMap (Field.held object) ++ after.filterMap (Field.held object)) := by
    rw [Declarations.active_eq_ok_iff, hfields, filterMap_held_none hnone hsame]
    refine ⟨fun g hg => ?_, rfl⟩
    by_cases hg' : g ∈ before ++ after
    · rw [hsame g hg']
      exact hread g (hfields ▸ hg)
    · have heq : g = f := by simp_all
      exact heq ▸ ⟨none, hnone⟩
  exact ⟨_, _, blocks, ps, blocks₀, ps₀, hb, hb₀, rfl, rfl,
    constraint_eq_ok_iff.2 ⟨_, _, _, hactive₀, hb₀, rfl, rfl⟩, htrace⟩

end

/-- **When a flag that is not set can as well be left out.** If a filter compiles and finishes with
the flag, so it does without it. The rows with the flag are those without it, each repeated once for
each row at the end of the field's relations; so they are the same rows, as often, if and only if
each of them has exactly one such row. A field without relations leaves no trace. -/
theorem rows_flag_unset {F : Type} (c : Compiler) (t : FilterType F) {object without : F}
    {before after : List (Field F)} {f : Field F}
    (hfields : t.declarations.fields = before ++ f :: after)
    (hop : f.declaration.operation.testsNull) (hflag : f.read object = .ok (some .unset))
    (hnone : f.read without = .ok none)
    (hsame : ∀ g ∈ before ++ after, g.read without = g.read object) {s s' : Criteria}
    (hs : s.Reachable) {page : PageRequest} {r : Compiled Constraint} {q : SelectQuery}
    (h : c.compile Criteria.backend t object page s = .ok r s')
    (hq : s'.finish r.constraint r.page = .ok q) :
    ∃ (r₀ : Compiled Constraint) (s₀ : Criteria) (q₀ : SelectQuery) (added added₀ : List Join),
      c.compile Criteria.backend t without page s = .ok r₀ s₀ ∧
      s₀.finish r₀.constraint r₀.page = .ok q₀ ∧
      s'.Paged r.constraint r.page q added ∧ s₀.Paged r₀.constraint r₀.page q₀ added₀ ∧
      (f.declaration.relations = [] → r₀ = r ∧ s₀ = s' ∧ q₀ = q) ∧
      ∀ (V : Type) (db : Database V),
        let ends := db.ends ((c.block s f.declaration).map Join.hop)
        let full := ((s'.withJoins added).selection r.constraint).rows db
        let full₀ := ((s₀.withJoins added₀).selection r₀.constraint).rows db
        let count := (s'.selection r.constraint).rows db
        let count₀ := (s₀.selection r₀.constraint).rows db
        count = (count₀.flatMap fun row => List.replicate (ends row).length row) ∧
        (count.Perm count₀ ↔ ∀ row ∈ count₀, (ends row).length = 1) ∧
        ((∀ j ∈ added, db.ToOne s'.table (s'.joins ++ added) j) →
          (∀ j ∈ added₀, db.ToOne s₀.table (s₀.joins ++ added₀) j) →
          full = count ∧ full₀ = count₀) := by
  obtain ⟨k, page'⟩ := r
  obtain ⟨hk, rfl⟩ := compile_eq_ok_iff.1 h
  have hn : Numbered s.joins := hs.numbered
  obtain ⟨earlier, later, blocks, ps, blocks₀, ps₀, hb, hb₀, rfl, rfl, hk₀, htrace⟩ :=
    constraint_without hfields hop hflag hnone hsame hn hk
  have h₀ : c.compile Criteria.backend t without page s =
      .ok ⟨.and ps₀, t.declarations.sortPage page⟩ (s.withJoins blocks₀.flatten) :=
    compile_eq_ok_iff.2 ⟨hk₀, rfl⟩
  have hkeys := Criteria.exists_finish_iff.1 ⟨q, hq⟩
  obtain ⟨q₀, hq₀⟩ : ∃ q₀, (s.withJoins blocks₀.flatten).finish (.and ps₀)
      (t.declarations.sortPage page) = .ok q₀ := Criteria.exists_finish_iff.2 hkeys
  obtain ⟨added, hpaged⟩ := Criteria.exists_paged hq
  obtain ⟨added₀, hpaged₀⟩ := Criteria.exists_paged hq₀
  refine ⟨_, _, q₀, added, added₀, h₀, hq₀, hpaged, hpaged₀, fun hr => ?_, fun V db => ?_⟩
  · obtain ⟨hjoins, hand⟩ := htrace hr
    rw [hjoins, hand] at hq₀ ⊢
    exact ⟨rfl, rfl, Except.ok.inj (hq₀.symm.trans hq)⟩
  · refine ⟨hb.rows_unset hop hn hb₀, ?_, fun hone hone₀ =>
      ⟨hpaged.rows_eq hb hn hone, hpaged₀.rows_eq hb₀ hn hone₀⟩⟩
    dsimp only
    rw [hb.rows_unset hop hn hb₀]
    exact perm_flatMap_replicate_iff

/-- A name that each object asks for. -/
def named : Field (Option Bool) :=
  ⟨⟨"name", .like, ""⟩, fun _ => .ok (some (.scalar (.text "x")))⟩

/-- A flag of the account. -/
def archived : Field (Option Bool) :=
  ⟨⟨"archived", .isNull, "account.archived"⟩, fun flag => .ok (flag.map (.scalar ∘ .bool))⟩

/-- Persons by their names, and by a flag of their accounts. -/
def archivable : FilterType (Option Bool) := ⟨"Person", ⟨[named, archived]⟩⟩

/-- Three persons have the name. One of them has no account, and is lost if the flag is there. -/
theorem rows_flag_unset_archivable : ∃ r s' q r₀ s₀,
    (Compiler.atEpoch .inner).compile Criteria.backend archivable (some false) byOwner people =
      .ok r s' ∧
    s'.finish r.constraint r.page = .ok q ∧
    (Compiler.atEpoch .inner).compile Criteria.backend archivable none byOwner people =
      .ok r₀ s₀ ∧
    ((s₀.selection r₀.constraint).rows Database.sample).map (fun row => row "name") =
      [some "Max", some "Xenia", some "Xu"] ∧
    ((s'.selection r.constraint).rows Database.sample).map (fun row => row "name") =
      [some "Max", some "Xu"] ∧
    ¬ ((s'.selection r.constraint).rows Database.sample).Perm
      ((s₀.selection r₀.constraint).rows Database.sample) := by
  obtain ⟨r, s', h, hcheck⟩ := exists_of_passes
    ((Compiler.atEpoch .inner).compile Criteria.backend archivable (some false) byOwner people)
    (fun r s => passes (Criteria.sortOperands r.page.sort s) (fun _ _ => true) &&
      ((s.selection r.constraint).rows Database.sample).map (fun row => row "name") ==
        [some "Max", some "Xu"])
    (by decide +kernel)
  obtain ⟨r₀, s₀, h₀, hcheck₀⟩ := exists_of_passes
    ((Compiler.atEpoch .inner).compile Criteria.backend archivable none byOwner people)
    (fun r s => ((s.selection r.constraint).rows Database.sample).map (fun row => row "name") ==
        [some "Max", some "Xenia", some "Xu"] &&
      ((s.selection r.constraint).rows Database.sample).any fun row => (Database.sample.ends
        (((Compiler.atEpoch .inner).block people archived.declaration).map Join.hop) row).length
          != 1)
    (by decide +kernel)
  rw [Bool.and_eq_true, beq_iff_eq] at hcheck₀
  rw [Bool.and_eq_true, beq_iff_eq] at hcheck
  obtain ⟨order, d, hsort, -⟩ := exists_of_passes _ _ hcheck.1
  have hq : s'.finish r.constraint r.page = .ok _ := Criteria.finish_eq_ok_iff.2 ⟨_, _, hsort, rfl⟩
  have hfields : archivable.declarations.fields = [named] ++ archived :: [] := rfl
  have hflag : archived.read (some false) = .ok (some .unset) := rfl
  have hnone : archived.read none = .ok none := rfl
  have hsame : ∀ g ∈ [named] ++ [], g.read none = g.read (some false) := by
    intro g hg
    obtain rfl := List.mem_singleton.1 hg
    rfl
  obtain ⟨r₁, s₁, q₁, added, added₁, h₁, -, -, -, -, hrows⟩ := rows_flag_unset (.atEpoch .inner)
    archivable hfields (.inl rfl) hflag hnone hsame ⟨people, rfl, .refl⟩ h hq
  rw [h₀, EStateM.Result.ok.injEq] at h₁
  obtain ⟨rfl, rfl⟩ := h₁
  refine ⟨r, s', _, r₀, s₀, h, hq, h₀, hcheck₀.1, hcheck.2, fun hperm => ?_⟩
  obtain ⟨row, hrow, hends⟩ := List.any_eq_true.1 hcheck₀.2
  exact bne_iff_ne.1 hends ((hrows String Database.sample).2.1.1 hperm row hrow)

end FilterQuery

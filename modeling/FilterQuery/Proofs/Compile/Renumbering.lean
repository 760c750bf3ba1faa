import FilterQuery.Proofs.Compile.Simulation
import FilterQuery.Proofs.Rows.Sorting
import FilterQuery.Proofs.Sql.Renaming

/-!
# Compilations on criteria that have joins

Criteria may serve one compilation after the other. The joins that are there make no difference but
in the numbers of the aliases.

* `Compiler.locate_error`, `Compiler.build_error`, **`Compiler.attempt_error`**: a field that does
  not compile is refused for its declaration and its input, whatever joins there are;
* `Criteria.unjoined`: the criteria without their joins; `Shifted`: criteria on which the same was
  compiled, without joins and with them;
* `Compiler.agree_constrain`, **`constraint_shifted`**: a field, and a filter object;
* `InTurn`: compilations one after the other; `Constraint.Apart`: constraints without a common
  join; **`InTurn.pairwise_apart`**;
* **`constraint_renumbered`**: both of them, for reachable criteria.
-/

namespace FilterQuery

open Sql

/-! ## Fields that do not compile -/

namespace Compiler

variable {c : Compiler} {d : Declaration} {input : Input} {s : Criteria}

/-- **A field that cannot be located is refused for its declaration**, before any join. -/
theorem locate_error (h : ¬ c.Accepts d) : ∃ e, ∀ s, c.locate Criteria.backend d s = .error e s := by
  unfold Accepts Declaration.relations Declaration.leaf at h
  unfold locate
  by_cases hp : d.hasPath = true
  · simp only [hp, if_true] at h ⊢
    cases hr : RelationPath.readWithin c.config.maxRelationDepth d.path with
    | error e =>
      refine ⟨e, fun s => ?_⟩
      unfold RelationPath.resolve
      rw [hr]
    | ok p =>
      obtain ⟨rfl, -, hblank, hdepth⟩ := RelationPath.readWithin_eq_ok_iff.1 hr
      exact absurd ⟨hblank, hdepth⟩ h
  · simp only [hp] at h ⊢
    have hempty : d.field.isEmpty = true := by
      by_contra hne
      exact h fun he => hne (String.isEmpty_iff.2 he)
    refine ⟨.invalidRelationPath Source.root.path "empty attribute name", fun s => ?_⟩
    show Criteria.columnOf .root d.field s = _
    unfold Criteria.columnOf
    exact if_pos hempty

theorem target_error (hs : Numbered s.joins) (ha : c.Accepts d)
    (hcount : d.operation.countsItems = true) (hmem : d.target ∉ s.collections) :
    d.operation.target Criteria.backend (c.column s d) (c.located s d) =
      .error ((QueryError.notACollection d.target).withOperation d.operation.name) := by
  have hsize : (c.located s d).sizeOf (c.column s d) = .error (.notACollection d.target) := by
    rw [Criteria.sizeOf_eq (attributePath_column hs ha)]
    exact if_neg hmem
  unfold Operation.target
  rw [if_pos hcount]
  show ((c.located s d).sizeOf (c.column s d)).mapError _ = _
  rw [hsize]
  rfl

theorem build_error (ha : c.Accepts d) (h : ¬ c.Compiles s d input) :
    ∃ e, ∀ s', Numbered s'.joins → s'.collections = s.collections →
      d.operation.build Criteria.backend c.context (c.column s' d) input (c.located s' d) =
        .error e (c.located s' d) := by
  unfold Operation.build
  by_cases hcount : d.operation.countsItems = true → d.target ∈ s.collections
  · cases hclause : d.operation.clause c.context input with
    | ok clause => exact absurd ⟨ha, hcount, clause, hclause⟩ h
    | error e =>
      refine ⟨e, fun s' hs' hcoll => ?_⟩
      have hlook : d.operation.target Criteria.backend (c.column s' d) (c.located s' d) =
          .ok (d.operation.look (c.column s' d)) := by
        refine Operation.target_backend_eq_ok_iff.2 ⟨rfl, fun hc => ?_⟩
        have hmem : d.target ∈ s'.collections := hcoll ▸ hcount hc
        exact ⟨_, attributePath_column hs' ha, hmem⟩
      rw [hlook]
  · obtain ⟨hcount, hmem⟩ := Classical.not_imp.1 hcount
    refine ⟨(QueryError.notACollection d.target).withOperation d.operation.name,
      fun s' hs' hcoll => ?_⟩
    have hmem' : d.target ∉ s'.collections := hcoll ▸ hmem
    rw [target_error hs' ha hcount hmem']

/-- **A field that does not compile is refused for its declaration and its input**, and for what is
known of collections. -/
theorem attempt_error (h : ¬ c.Compiles s d input) : ∃ e, ∀ s', Numbered s'.joins →
    s'.collections = s.collections →
      ∃ s'', c.attempt Criteria.backend d input s' = .error e s'' ∧ Criteria.Steps s' s'' := by
  by_cases ha : c.Accepts d
  · obtain ⟨e, he⟩ := build_error ha h
    refine ⟨e, fun s' hs' hcoll => ⟨c.located s' d, ?_, Criteria.steps_chain ha.name_ne_empty⟩⟩
    have hlocate : c.locate Criteria.backend d s' = .ok (c.column s' d) (c.located s' d) :=
      locate_eq_ok_iff.2 ⟨ha, rfl, rfl⟩
    exact bind_eq_error_iff.2 (.inr ⟨_, _, hlocate, he s' hs' hcoll⟩)
  · obtain ⟨e, he⟩ := locate_error ha
    exact ⟨e, fun s' _ _ => ⟨s', bind_eq_error_iff.2 (.inl (he s')), .refl⟩⟩

theorem attempt_eq_ok (hs : Numbered s.joins) (h : c.Compiles s d input) {clause : Clause}
    (hclause : d.operation.clause c.context input = .ok clause) :
    c.attempt Criteria.backend d input s =
      .ok (clause.constraint (d.operation.look (c.column s d))) (c.located s d) := by
  obtain ⟨ha, hcount, -⟩ := h
  have hlocate : c.locate Criteria.backend d s = .ok (c.column s d) (c.located s d) :=
    locate_eq_ok_iff.2 ⟨ha, rfl, rfl⟩
  have hbuild := (build_located_eq_ok_iff hs ha).2 ⟨hcount, clause, hclause, rfl⟩
  exact bind_eq_ok_iff.2 ⟨_, _, hlocate, hbuild⟩

end Compiler

/-! ## The same compilation, without joins and with them -/

/-- The criteria without their joins. -/
def Sql.Criteria.unjoined (s : Criteria) : Criteria := { s with joins := [] }

/-- The same joins were added to the criteria without joins and to the criteria as they are, but for
the numbers of the aliases. -/
structure Shifted (s fresh later : Criteria) (js : List Join) : Prop where
  fresh_eq : fresh = s.unjoined.withJoins js
  later_eq : later = s.withJoins (js.map (Join.rename (renumber s.joins.length)))
  numbered : Numbered fresh.joins ∧ Numbered later.joins

namespace Shifted

variable {s fresh later : Criteria} {js : List Join}

theorem start (hs : Numbered s.joins) : Shifted s s.unjoined s [] where
  fresh_eq := (Criteria.withJoins_nil _).symm
  later_eq := (Criteria.withJoins_nil _).symm
  numbered := ⟨.nil, hs⟩

theorem counts_on (h : Shifted s fresh later js) : Criteria.Later s.joins.length fresh later where
  dialect_eq := by rw [h.fresh_eq, h.later_eq]; rfl
  relations_eq := by rw [h.fresh_eq, h.later_eq]; rfl
  length_eq := by
    rw [h.fresh_eq, h.later_eq]
    simp [Criteria.unjoined, Nat.add_comm]

theorem collections_eq (h : Shifted s fresh later js) :
    fresh.collections = s.collections ∧ later.collections = s.collections := by
  rw [h.fresh_eq, h.later_eq]
  exact ⟨rfl, rfl⟩

variable (c : Compiler) (d : Declaration)

theorem block (h : Shifted s fresh later js) :
    c.block later d = (c.block fresh d).map (Join.rename (renumber s.joins.length)) := by
  have hchain := h.counts_on.chain c.config.joinType .root d.relations
  rwa [rename_root] at hchain

theorem column (h : Shifted s fresh later js) :
    c.column later d = (c.column fresh d).rename (renumber s.joins.length) := by
  have htip : tip .root (c.block later d) =
      (tip .root (c.block fresh d)).rename (renumber s.joins.length) := by
    rw [h.block, ← tip_rename, rename_root]
  rw [Compiler.column, htip]
  rfl

theorem located (h : Shifted s fresh later js) :
    Shifted s (c.located fresh d) (c.located later d) (js ++ c.block fresh d) where
  fresh_eq := by
    rw [Compiler.located, h.fresh_eq, Criteria.withJoins_withJoins]
  later_eq := by
    rw [Compiler.located, h.block]
    conv_lhs => rw [h.later_eq]
    rw [Criteria.withJoins_withJoins, List.map_append]
  numbered := ⟨Compiler.numbered_located h.numbered.1, Compiler.numbered_located h.numbered.2⟩

end Shifted

section

variable {s : Criteria}

/-- **A field compiles alike without joins and with them.** -/
theorem Compiler.agree_constrain (c : Compiler) (filter : String) (d : Declaration) (input : Input)
    {fresh later : Criteria} (h : ∃ js, Shifted s fresh later js) :
    Agree True (fun fresh later => ∃ js, Shifted s fresh later js)
      (fun k l => l = k.rename (renumber s.joins.length))
      (c.constrain Criteria.backend filter d input fresh)
      (c.constrain Criteria.backend filter d input later) := by
  obtain ⟨js, h⟩ := h
  obtain ⟨hfresh, hlater⟩ := h.numbered
  obtain ⟨hcoll, hcoll'⟩ := h.collections_eq
  -- Whether a field compiles does not depend on the joins, so both calls succeed or both fail.
  by_cases hcomp : c.Compiles s d input
  · have hc : c.Compiles fresh d input := by rwa [Compiles, hcoll]
    have hc' : c.Compiles later d input := by rwa [Compiles, hcoll']
    obtain ⟨-, -, clause, hclause⟩ := hcomp
    have hok : c.constrain Criteria.backend filter d input fresh = .ok _ _ :=
      constrain_eq_ok_iff_attempt.2 (attempt_eq_ok hfresh hc hclause)
    have hok' : c.constrain Criteria.backend filter d input later = .ok _ _ :=
      constrain_eq_ok_iff_attempt.2 (attempt_eq_ok hlater hc' hclause)
    rw [hok, hok']
    refine .ok ?_ ⟨_, h.located c d⟩
    rw [Clause.rename_constraint, Operation.rename_look, h.column]
  · obtain ⟨e, he⟩ := attempt_error hcomp
    obtain ⟨u, hu, -⟩ := he fresh hfresh hcoll
    obtain ⟨v, hv, -⟩ := he later hlater hcoll'
    have herror : c.constrain Criteria.backend filter d input fresh = .error (place filter d e) u :=
      constrain_eq_error_iff.2 ⟨e, hu, rfl⟩
    have herror' : c.constrain Criteria.backend filter d input later = .error (place filter d e) v :=
      constrain_eq_error_iff.2 ⟨e, hv, rfl⟩
    rw [herror, herror']
    exact .error _ u v

theorem forall₂_rename {f : String → String} {ks ls : List Constraint}
    (h : List.Forall₂ (fun k l => l = Constraint.rename f k) ks ls) :
    ls = ks.map (Constraint.rename f) := by
  induction h with
  | nil => rfl
  | cons hk _ ih => rw [List.map_cons, hk, ih]

theorem Compiler.agree_shifted {F : Type} (c : Compiler) (t : FilterType F) (object : F)
    (hs : Numbered s.joins) :
    Agree True (fun fresh later => ∃ js, Shifted s fresh later js)
      (fun k l => l = k.rename (renumber s.joins.length))
      (c.constraint Criteria.backend t object s.unjoined)
      (c.constraint Criteria.backend t object s) := by
  refine agree_constraint object (fun d input _ _ h => c.agree_constrain t.name d input h)
    (fun _ hps => ?_) ⟨[], .start hs⟩
  rw [conjunction_backend, conjunction_backend, Constraint.rename_and, forall₂_rename hps]

/-- **The constraint is the one without joins, renumbered**, and so are the joins that it adds. -/
theorem constraint_shifted {F : Type} (c : Compiler) (t : FilterType F) (object : F)
    (hs : Numbered s.joins) :
    (∃ e u v, c.constraint Criteria.backend t object s.unjoined = .error e u ∧
      c.constraint Criteria.backend t object s = .error e v) ∨
    ∃ k js, c.constraint Criteria.backend t object s.unjoined = .ok k (s.unjoined.withJoins js) ∧
      c.constraint Criteria.backend t object s = .ok (k.rename (renumber s.joins.length))
        (s.withJoins (js.map (Join.rename (renumber s.joins.length)))) ∧
      Numbered js ∧ ∀ a ∈ k.operands, ∃ source ∈ sources js, a.qualifier = source.tableAlias := by
  rcases (c.agree_shifted t object hs).of_exact with
    herror | ⟨k, u, l, v, hfresh, hlater, rfl, js, rfl, rfl, hjs, -⟩
  · exact .inl herror
  · refine .inr ⟨k, js, hfresh, hlater, hjs, fun a ha => ?_⟩
    obtain ⟨fields, blocks, ps, -, hb, rfl, hjoins⟩ := constraint_eq_ok_iff.1 hfresh
    have heq : js = blocks.flatten := congrArg Criteria.joins hjoins
    rw [Constraint.mem_operands_and] at ha
    obtain ⟨p, hp, ha⟩ := ha
    rw [heq]
    exact hb.qualifier_mem .nil p hp a ha

/-! ## Compilations in turn -/

/-- **A constraint looks at the root and at the joins that were added for it.** -/
theorem constraint_qualifiers {F : Type} {c : Compiler} {t : FilterType F} {object : F}
    {s' : Criteria} {k : Constraint} (hs : Numbered s.joins)
    (h : c.constraint Criteria.backend t object s = .ok k s') : ∀ a ∈ k.operands,
      a.qualifier = rootAlias ∨
        ∃ n, s.joins.length < n ∧ n ≤ s'.joins.length ∧ a.qualifier = joinAlias n := by
  rcases constraint_shifted c t object hs with ⟨e, -, v, -, herror⟩ | ⟨k, js, -, hok, hjs, hlook⟩
  · rw [h] at herror
    cases herror
  · rw [h, EStateM.Result.ok.injEq] at hok
    obtain ⟨rfl, rfl⟩ := hok
    intro a ha
    rw [Constraint.operands_rename, List.mem_map] at ha
    obtain ⟨b, hb, rfl⟩ := ha
    obtain ⟨source, hsource, hqual⟩ := hlook b hb
    rw [Operand.qualifier_rename, hqual]
    rcases hjs.alias_eq hsource with hroot | ⟨n, hpos, hle, hn⟩
    · rw [hroot, renumber_rootAlias]
      exact .inl rfl
    · rw [hn, renumber_joinAlias]
      refine .inr ⟨n + s.joins.length, by omega, ?_, rfl⟩
      rw [Criteria.joins_withJoins, List.length_append, List.length_map]
      omega

theorem Compiler.steps_of_attempt_error {c : Compiler} {d : Declaration} {input : Input}
    {s' : Criteria} {e : QueryError} (hs : Numbered s.joins)
    (h : c.attempt Criteria.backend d input s = .error e s') : Criteria.Steps s s' := by
  by_cases hcomp : c.Compiles s d input
  · obtain ⟨-, -, clause, hclause⟩ := id hcomp
    rw [Compiler.attempt_eq_ok hs hcomp hclause] at h
    cases h
  · obtain ⟨e', he⟩ := Compiler.attempt_error hcomp
    obtain ⟨s'', hs'', hsteps⟩ := he s hs rfl
    rw [h, EStateM.Result.error.injEq] at hs''
    rw [hs''.2]
    exact hsteps

theorem steps_of_constraint {F : Type} {c : Compiler} {t : FilterType F} {object : F}
    {s' : Criteria} {k : Constraint} (h : c.constraint Criteria.backend t object s = .ok k s') :
    Criteria.Steps s s' := by
  obtain ⟨fields, blocks, ps, -, hb, -, rfl⟩ := constraint_eq_ok_iff.1 h
  exact hb.steps

theorem steps_of_constraint_error {F : Type} {c : Compiler} {t : FilterType F} {object : F}
    {s' : Criteria} {e : QueryError} (hs : Numbered s.joins)
    (h : c.constraint Criteria.backend t object s = .error e s') : Criteria.Steps s s' := by
  rcases Compiler.constraint_eq_error_iff.1 h with ⟨-, -, -, rfl⟩ | ⟨active, -, hfields⟩
  · exact .refl
  · obtain ⟨before, field, after, -, ps, u, hbefore, e₀, hattempt, -⟩ :=
      Compiler.eachField_eq_error_iff.1 hfields
    obtain ⟨blocks, hb, rfl⟩ :=
      eachField_eq_ok_iff.1 (Compiler.eachField_eq_ok_iff_attempt.2 hbefore :
        Compiler.eachField (c.constrain Criteria.backend t.name) before s = .ok ps u)
    exact hb.steps.trans (Compiler.steps_of_attempt_error (hb.numbered hs) hattempt)

end

/-- Filters compiled one after the other on the same criteria, by any compilers, with the
constraints of those that compile. The criteria may change in between. -/
inductive InTurn : Criteria → List Constraint → Criteria → Prop
  | done (s : Criteria) : InTurn s [] s
  | change {s s' s'' : Criteria} {ks : List Constraint} (h : Criteria.Step s s')
      (rest : InTurn s' ks s'') : InTurn s ks s''
  | compiled {F : Type} {c : Compiler} {t : FilterType F} {object : F} {s s' s'' : Criteria}
      {k : Constraint} {ks : List Constraint}
      (h : c.constraint Criteria.backend t object s = .ok k s') (rest : InTurn s' ks s'') :
      InTurn s (k :: ks) s''
  | failed {F : Type} {c : Compiler} {t : FilterType F} {object : F} {s s' s'' : Criteria}
      {e : QueryError} {ks : List Constraint}
      (h : c.constraint Criteria.backend t object s = .error e s') (rest : InTurn s' ks s'') :
      InTurn s ks s''

/-- Two constraints have no table in common but the root. -/
def Sql.Constraint.Apart (k l : Constraint) : Prop :=
  ∀ a ∈ k.operands, ∀ b ∈ l.operands, a.qualifier = b.qualifier → a.qualifier = rootAlias

namespace InTurn

variable {s s' : Criteria} {ks : List Constraint}

theorem qualifiers (h : InTurn s ks s') (hs : Numbered s.joins) : ∀ k ∈ ks, ∀ a ∈ k.operands,
    a.qualifier = rootAlias ∨ ∃ n, s.joins.length < n ∧ a.qualifier = joinAlias n := by
  have hlater : ∀ {s u : Criteria} {a : Operand}, Criteria.Steps s u →
      (a.qualifier = rootAlias ∨ ∃ n, u.joins.length < n ∧ a.qualifier = joinAlias n) →
      (a.qualifier = rootAlias ∨ ∃ n, s.joins.length < n ∧ a.qualifier = joinAlias n) := by
    rintro s u a hsteps (hroot | ⟨n, hn, ha⟩)
    · exact .inl hroot
    · exact .inr ⟨n, Nat.lt_of_le_of_lt hsteps.prefix_joins.length_le hn, ha⟩
  induction h with
  | done => exact fun k hk => absurd hk List.not_mem_nil
  | change h _ ih =>
    exact fun k hk a ha => hlater (.single h) (ih (h.numbered hs) k hk a ha)
  | compiled h _ ih =>
    have hsteps := steps_of_constraint h
    rw [List.forall_mem_cons]
    refine ⟨fun a ha => ?_, fun k hk a ha => hlater hsteps (ih (hsteps.numbered hs) k hk a ha)⟩
    rcases constraint_qualifiers hs h a ha with hroot | ⟨n, hlt, -, hn⟩
    · exact .inl hroot
    · exact .inr ⟨n, hlt, hn⟩
  | failed h _ ih =>
    have hsteps := steps_of_constraint_error hs h
    exact fun k hk a ha => hlater hsteps (ih (hsteps.numbered hs) k hk a ha)

/-- **Constraints compiled in turn share no join.** -/
theorem pairwise_apart (h : InTurn s ks s') (hs : Numbered s.joins) :
    ks.Pairwise Constraint.Apart := by
  induction h with
  | done => exact .nil
  | change h _ ih => exact ih (h.numbered hs)
  | failed h _ ih => exact ih ((steps_of_constraint_error hs h).numbered hs)
  | compiled h rest ih =>
    -- The numbers of the first constraint end where those of the others begin.
    have hs' := (steps_of_constraint h).numbered hs
    refine .cons (fun l hl a ha b hb heq => ?_) (ih hs')
    rcases constraint_qualifiers hs h a ha with hroot | ⟨m, -, hm, ha'⟩
    · exact hroot
    · rcases rest.qualifiers hs' l hl b hb with hroot | ⟨n, hn, hb'⟩
      · rw [heq, hroot]
      · have hmn : m = n := joinAlias_injective (by rw [← ha', ← hb', heq])
        omega

end InTurn

/-- **The joins that are there make no difference but in the numbers of the aliases.** On reachable
criteria a filter object fails as it does on the criteria without joins, or has the same constraint
and adds the same joins, each alias counted on from the joins that are there. The conditions of
joins are written with their aliases. So constraints compiled in turn share no join. -/
theorem constraint_renumbered {F : Type} (c : Compiler) (t : FilterType F) (object : F)
    {s : Criteria} (hs : s.Reachable) :
    ((∃ e u v, c.constraint Criteria.backend t object s.unjoined = .error e u ∧
        c.constraint Criteria.backend t object s = .error e v) ∨
      ∃ k js, c.constraint Criteria.backend t object s.unjoined = .ok k (s.unjoined.withJoins js) ∧
        c.constraint Criteria.backend t object s = .ok (k.rename (renumber s.joins.length))
          (s.withJoins (js.map (Join.rename (renumber s.joins.length)))) ∧
        Numbered js ∧ ∀ a ∈ k.operands, ∃ source ∈ sources js, a.qualifier = source.tableAlias) ∧
    ∀ ks s', InTurn s ks s' → ks.Pairwise Constraint.Apart :=
  ⟨constraint_shifted c t object hs.numbered, fun _ _ h => h.pairwise_apart hs.numbered⟩

/-- The example compiled twice on the same criteria: the joins of the second time are those of the
first, counted on from three. -/
theorem constraint_renumbered_sharing : ∃ k js,
    (Compiler.atEpoch .left).constraint Criteria.backend sharing () people =
      .ok k (people.withJoins js) ∧
    (people.withJoins js).Reachable ∧
    (Compiler.atEpoch .left).constraint Criteria.backend sharing () (people.withJoins js) =
      .ok (k.rename (renumber 3))
        ((people.withJoins js).withJoins (js.map (Join.rename (renumber 3)))) ∧
    js.map Join.on = ["t0.account_id = j1.id", "t0.account_id = j2.id", "j2.owner_id = j3.id"] ∧
    (js.map (Join.rename (renumber 3))).map Join.on =
      ["t0.account_id = j4.id", "t0.account_id = j5.id", "j5.owner_id = j6.id"] ∧
    k.Apart (k.rename (renumber 3)) := by
  obtain ⟨k, c₁, h, hcheck⟩ := exists_of_passes
    ((Compiler.atEpoch .left).constraint Criteria.backend sharing () people)
    (fun _ c => c.joins.length == 3 && c.joins.map Join.on ==
        ["t0.account_id = j1.id", "t0.account_id = j2.id", "j2.owner_id = j3.id"] &&
      (c.joins.map (Join.rename (renumber 3))).map Join.on ==
        ["t0.account_id = j4.id", "t0.account_id = j5.id", "j5.owner_id = j6.id"])
    (by decide +kernel)
  simp only [Bool.and_eq_true, beq_iff_eq] at hcheck
  obtain ⟨⟨hlength, hon⟩, hon'⟩ := hcheck
  have hreach : c₁.Reachable := ⟨people, rfl, steps_of_constraint h⟩
  obtain ⟨-, blocks, -, -, -, -, rfl⟩ := constraint_eq_ok_iff.1 h
  obtain ⟨hcases, -⟩ := constraint_renumbered (.atEpoch .left) sharing () hreach
  obtain ⟨-, hturn⟩ := constraint_renumbered (.atEpoch .left) sharing () ⟨people, rfl, .refl⟩
  rw [hlength] at hcases
  rcases hcases with ⟨e, u, -, hfresh, -⟩ | ⟨k', js, hfresh, hlater, -⟩
  · have hnone : (Compiler.atEpoch .left).constraint Criteria.backend sharing () people =
        .error e u := hfresh
    rw [h] at hnone
    cases hnone
  · have hsame : (Compiler.atEpoch .left).constraint Criteria.backend sharing () people =
        .ok k' (people.withJoins js) := hfresh
    have heq := hsame
    rw [h, EStateM.Result.ok.injEq] at heq
    obtain ⟨rfl, hjoins⟩ := heq
    obtain rfl : blocks.flatten = js := congrArg Criteria.joins hjoins
    have hpair := hturn _ _ (.compiled h (.compiled hlater (.done _)))
    exact ⟨k, _, h, hreach, hlater, hon, hon', List.rel_of_pairwise_cons hpair
      (List.mem_singleton_self _)⟩

end FilterQuery

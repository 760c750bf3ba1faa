import FilterQuery.Proofs.Sql.Chain
import FilterQuery.Proofs.Sql.Sort

/-!
# Joins from tables that are there

Criteria whose joins all start from the root or from an earlier join.

* `Criteria.Grow`, `Criteria.Grown`: one such join, and any number of them; the settings stay
  (`Criteria.Grown.exists_withJoins`);
* `Criteria.grown_chain`, `Criteria.grown_reuseChain`, `Criteria.grown_sortOperands`: relation
  paths and sort keys make such joins;
* `Entry`: what a join table says of one join, with **`Criteria.Grown.entry`**;
* **`Criteria.exists_sortOperands_iff`**: which sort keys are accepted;
  **`Criteria.sortOperand_error`**: one that is refused leaves the criteria alone.
-/

namespace FilterQuery.Sql

namespace Criteria

/-- One more join, from a table that is there. -/
inductive Grow : Criteria → Criteria → Prop
  | join {c c' : Criteria} {parent source : Source} {name : String} {type : JoinType}
      (mem : parent ∈ sources c.joins) (h : addJoin parent name type c = .ok source c') : Grow c c'

/-- Any number of joins, each from a table that is there by then. -/
abbrev Grown : Criteria → Criteria → Prop := Relation.ReflTransGen Grow

variable {c c' : Criteria} {parent source : Source} {name : String} {names : List String}
  {type : JoinType}

theorem grown_addJoin (mem : parent ∈ sources c.joins)
    (h : addJoin parent name type c = .ok source c') : Grown c c' ∧ source ∈ sources c'.joins := by
  refine ⟨.single (.join mem h), ?_⟩
  obtain ⟨-, rfl, rfl⟩ := addJoin_eq_ok_iff.1 h
  exact source_mem (List.mem_append_right _ (List.mem_singleton_self _))

theorem Grow.exists_nextJoin (h : Grow c c') : ∃ parent ∈ sources c.joins, ∃ name type,
    name ≠ "" ∧ c' = c.withJoins [c.nextJoin parent name type] := by
  obtain ⟨mem, h⟩ := h
  obtain ⟨hname, -, hc⟩ := addJoin_eq_ok_iff.1 h
  exact ⟨_, mem, _, _, hname, hc⟩

theorem Grown.exists_withJoins (h : Grown c c') : ∃ js, c' = c.withJoins js := by
  induction h with
  | refl => exact ⟨[], (withJoins_nil _).symm⟩
  | tail _ step ih =>
    obtain ⟨js, rfl⟩ := ih
    obtain ⟨_, -, _, _, -, rfl⟩ := step.exists_nextJoin
    exact ⟨_, withJoins_withJoins _ _ _⟩

theorem Grown.steps (h : Grown c c') : Steps c c' := by
  induction h with
  | refl => exact .refl
  | tail _ step ih =>
    obtain ⟨-, hjoin⟩ := step
    exact ih.tail (.join hjoin)

theorem Grown.prefix_joins (h : Grown c c') : c.joins <+: c'.joins := by
  obtain ⟨js, rfl⟩ := h.exists_withJoins
  exact List.prefix_append _ _

theorem Grown.source_mem (h : Grown c c') (hs : source ∈ sources c.joins) :
    source ∈ sources c'.joins := by
  obtain ⟨js, rfl⟩ := h.exists_withJoins
  exact sources_append_left hs

theorem Grown.numbered (h : Grown c c') (hc : Numbered c.joins) : Numbered c'.joins := by
  induction h with
  | refl => exact hc
  | tail _ step ih =>
    obtain ⟨_, -, _, _, -, rfl⟩ := step.exists_nextJoin
    exact ih.snoc rfl

/-! ## Relation paths and sort keys -/

theorem grown_chain (mem : parent ∈ sources c.joins) (hn : ∀ name ∈ names, name ≠ "") :
    Grown c (c.withJoins (chain type c parent names)) := by
  induction names generalizing c parent with
  | nil => rw [chain, withJoins_nil]
  | cons name rest ih =>
    obtain ⟨hname, hrest⟩ := List.forall_mem_cons.1 hn
    obtain ⟨hfirst, hmem⟩ := grown_addJoin mem (addJoin_eq_ok_iff.2 ⟨hname, rfl, rfl⟩ :
      addJoin parent name type c = .ok _ (c.withJoins [c.nextJoin parent name type]))
    rw [chain, ← List.singleton_append, ← withJoins_withJoins]
    exact hfirst.trans (ih hmem hrest)

theorem grown_reuseJoin (mem : parent ∈ sources c.joins)
    (h : reuseJoin parent name c = .ok source c') : Grown c c' ∧ source ∈ sources c'.joins := by
  rcases reuseJoin_eq_ok_iff.1 h with ⟨j, hj, rfl, rfl⟩ | ⟨-, hname, hs, hc⟩
  · exact ⟨.refl, FilterQuery.Sql.source_mem (child_eq_some hj).1⟩
  · exact grown_addJoin mem (addJoin_eq_ok_iff.2 ⟨hname, hs, hc⟩)

theorem grown_reuseChain (mem : parent ∈ sources c.joins)
    (h : reuseChain names parent c = .ok source c') : Grown c c' ∧ source ∈ sources c'.joins := by
  induction names generalizing c parent with
  | nil =>
    obtain ⟨rfl, rfl⟩ := pure_eq_ok_iff.1 h
    exact ⟨.refl, mem⟩
  | cons name names ih =>
    obtain ⟨next, d, hj, hr⟩ := reuseChain_cons_eq_ok_iff.1 h
    obtain ⟨hd, hnext⟩ := grown_reuseJoin mem hj
    obtain ⟨hc, hs⟩ := ih hnext hr
    exact ⟨hd.trans hc, hs⟩

theorem grown_sortOperand {column : String} {a : Operand} (h : sortOperand column c = .ok a c') :
    Grown c c' ∧ ∃ source ∈ sources c'.joins, ∃ leaf, a = .column source.tableAlias leaf := by
  obtain ⟨p, source, -, hp, rfl⟩ := sortOperand_eq_ok_iff.1 h
  obtain ⟨hc, hs⟩ := grown_reuseChain List.mem_cons_self hp
  exact ⟨hc, source, hs, p.leaf, rfl⟩

theorem grown_sortOperands {keys : List SortKey} {order : List (SortKey × Operand)}
    (h : sortOperands keys c = .ok order c') : Grown c c' ∧ ∀ key ∈ order,
      ∃ source ∈ sources c'.joins, ∃ leaf, key.2 = .column source.tableAlias leaf := by
  induction keys generalizing c order with
  | nil =>
    obtain ⟨rfl, rfl⟩ := pure_eq_ok_iff.1 h
    exact ⟨.refl, fun _ hk => absurd hk List.not_mem_nil⟩
  | cons key keys ih =>
    obtain ⟨a, d, rest, ha, hr, rfl⟩ := sortOperands_cons_eq_ok_iff.1 h
    obtain ⟨hd, source, hs, leaf, rfl⟩ := grown_sortOperand ha
    obtain ⟨hc, hrest⟩ := ih hr
    exact ⟨hd.trans hc, List.forall_mem_cons.2 ⟨⟨source, hc.source_mem hs, leaf, rfl⟩, hrest⟩⟩

theorem exists_reuseChain (hn : ∀ name ∈ names, name ≠ "") :
    ∃ source c', reuseChain names parent c = .ok source c' := by
  induction names generalizing c parent with
  | nil => exact ⟨parent, c, rfl⟩
  | cons name names ih =>
    obtain ⟨hname, hrest⟩ := List.forall_mem_cons.1 hn
    have hjoin : ∃ next d, reuseJoin parent name c = .ok next d := by
      cases hj : child c.joins parent.tableAlias name with
      | some j => exact ⟨_, _, reuseJoin_eq_ok_iff.2 (.inl ⟨j, hj, rfl, rfl⟩)⟩
      | none => exact ⟨_, _, reuseJoin_eq_ok_iff.2 (.inr ⟨hj, hname, rfl, rfl⟩)⟩
    obtain ⟨next, d, hj⟩ := hjoin
    obtain ⟨source, c', hr⟩ : ∃ source c', reuseChain names next d = .ok source c' := ih hrest
    exact ⟨source, c', reuseChain_cons_eq_ok_iff.2 ⟨next, d, hj, hr⟩⟩

theorem readSortKey_name_ne {depth : Nat} {column : String} {p : DottedPath}
    (h : readSortKey depth column = .ok p) : ∀ name ∈ p.relations, name ≠ "" :=
  fun name hm => (readSortKey_eq_ok_iff.1 h).2.1 name (List.mem_append_left _ hm)

theorem exists_sortOperand_iff {column : String} : (∃ a c', sortOperand column c = .ok a c') ↔
    ∃ p, readSortKey c.maxDepth column = .ok p := by
  constructor
  · rintro ⟨a, c', h⟩
    obtain ⟨p, -, hp, -⟩ := sortOperand_eq_ok_iff.1 h
    exact ⟨p, hp⟩
  · rintro ⟨p, hp⟩
    obtain ⟨source, c', hr⟩ : ∃ source c', reuseChain p.relations .root c = .ok source c' :=
      exists_reuseChain (readSortKey_name_ne hp)
    exact ⟨_, c', sortOperand_eq_ok_iff.2 ⟨p, source, hp, hr, rfl⟩⟩

/-- **Sort keys are accepted for their texts**, whatever joins there are. -/
theorem exists_sortOperands_iff {keys : List SortKey} :
    (∃ order c', sortOperands keys c = .ok order c') ↔
      ∀ key ∈ keys, ∃ p, readSortKey c.maxDepth key.column = .ok p := by
  induction keys generalizing c with
  | nil => exact ⟨fun _ _ hk => absurd hk List.not_mem_nil, fun _ => ⟨[], c, rfl⟩⟩
  | cons key keys ih =>
    have hrest : ∀ {a d}, sortOperand key.column c = .ok a d →
        ((∃ order c', sortOperands keys d = .ok order c') ↔
          ∀ key ∈ keys, ∃ p, readSortKey c.maxDepth key.column = .ok p) := by
      intro a d ha
      obtain ⟨js, rfl⟩ := Grown.exists_withJoins (grown_sortOperand ha).1
      exact ih
    rw [List.forall_mem_cons, ← exists_sortOperand_iff]
    simp only [sortOperands_cons_eq_ok_iff]
    constructor
    · rintro ⟨_, c', a, d, order, ha, hr, -⟩
      exact ⟨⟨a, d, ha⟩, (hrest ha).1 ⟨order, c', hr⟩⟩
    · rintro ⟨⟨a, d, ha⟩, hkeys⟩
      obtain ⟨order, c', hr⟩ := (hrest ha).2 hkeys
      exact ⟨_, c', a, d, order, ha, hr, rfl⟩

/-- **A sort key that is refused leaves the criteria alone.** It is refused for its text, before any
join. -/
theorem sortOperand_error {column : String} {e : QueryError}
    (h : sortOperand column c = .error e c') : c' = c := by
  unfold sortOperand at h
  cases hr : readSortKey c.maxDepth column with
  | error e =>
    rw [hr, EStateM.Result.error.injEq] at h
    exact h.2.symm
  | ok p =>
    obtain ⟨source, d, hd⟩ : ∃ source d, reuseChain p.relations .root c = .ok source d :=
      exists_reuseChain (readSortKey_name_ne hr)
    simp [hr, hd] at h

end Criteria

/-! ## The join table -/

/-- What a join table says of its `k`-th join, counted from zero: its alias; its parent, which is
the root or an earlier join; its path, which continues that of its parent; table and condition, by
the relation that is registered for the path, or by convention. -/
structure Entry (c : Criteria) (js : List Join) (k : Nat) (j : Join) : Prop where
  alias_eq : j.tableAlias = joinAlias (k + 1)
  parent : (j.parentAlias = rootAlias ∧ j.path = j.name) ∨
    ∃ i p, i < k ∧ js[i]? = some p ∧ j.parentAlias = p.tableAlias ∧ j.path = p.path ++ "." ++ j.name
  table_eq : j.table = (c.relationAt j.path j.name).table
  on_eq : j.on = (c.relationAt j.path j.name).onCondition c.dialect j.parentAlias j.tableAlias

variable {c c' : Criteria} {js ks : List Join} {j : Join} {k : Nat}

theorem Entry.append (h : Entry c js k j) : Entry c (js ++ ks) k j := by
  refine ⟨h.alias_eq, ?_, h.table_eq, h.on_eq⟩
  rcases h.parent with hroot | ⟨i, p, hi, hp, hj⟩
  · exact .inl hroot
  · have hlt : i < js.length := (List.getElem?_eq_some_iff.1 hp).1
    exact .inr ⟨i, p, hi, by rw [List.getElem?_append_left hlt, hp], hj⟩

namespace Criteria

theorem Grown.path_ne (h : Grown c c') (fresh : c.joins = []) : ∀ j ∈ c'.joins, j.path ≠ "" := by
  induction h with
  | refl => simp [fresh]
  | tail _ step ih =>
    obtain ⟨parent, -, name, type, hname, rfl⟩ := step.exists_nextJoin
    intro j hj
    rcases List.mem_append.1 hj with hj | hj
    · exact ih j hj
    · rw [List.mem_singleton.1 hj]
      change extend parent.path name ≠ ""
      unfold extend
      split
      · exact hname
      · intro e
        have hlen := congrArg String.length e
        rw [String.length_append, String.length_append] at hlen
        change parent.path.length + 1 + name.length = 0 at hlen
        omega

/-- **Every join of a join table is as its entry says.** -/
theorem Grown.entry (h : Grown c c') (fresh : c.joins = []) :
    ∀ k j, c'.joins[k]? = some j → Entry c c'.joins k j := by
  induction h with
  | refl => simp [fresh]
  | @tail d _ hd step ih =>
    obtain ⟨parent, mem, name, type, hname, rfl⟩ := step.exists_nextJoin
    obtain ⟨js, hjs⟩ := Grown.exists_withJoins hd
    have hrel : ∀ path, d.relationAt path name = c.relationAt path name := fun _ => by rw [hjs]; rfl
    have hdialect : d.dialect = c.dialect := by rw [hjs]; rfl
    intro k j hj
    rw [joins_withJoins] at hj ⊢
    rcases Nat.lt_trichotomy k d.joins.length with hk | rfl | hk
    · rw [List.getElem?_append_left hk] at hj
      exact (ih k j hj).append
    · rw [List.getElem?_concat_length, Option.some.injEq] at hj
      subst hj
      refine ⟨rfl, ?_, congrArg Relation.table (hrel _), ?_⟩
      · rcases List.mem_cons.1 mem with rfl | hp
        · exact .inl ⟨rfl, rfl⟩
        · obtain ⟨p, hmem, rfl⟩ := List.mem_map.1 hp
          obtain ⟨i, hi, rfl⟩ := List.getElem_of_mem hmem
          refine .inr ⟨i, d.joins[i], hi, ?_, rfl, ?_⟩
          · rw [List.getElem?_append_left hi, List.getElem?_eq_getElem hi]
          · have hne : d.joins[i].path ≠ "" := Grown.path_ne hd fresh _ hmem
            exact if_neg fun e => hne (String.isEmpty_iff.1 e)
      · change (d.relationAt _ name).onCondition d.dialect _ _ = _
        rw [hrel, hdialect]
        rfl
    · have hlen : (d.joins ++ [d.nextJoin parent name type]).length ≤ k := by
        rw [List.length_append, List.length_singleton]
        exact hk
      rw [List.getElem?_eq_none hlen] at hj
      cases hj

end Criteria

end FilterQuery.Sql

import FilterQuery.Proofs.Path
import FilterQuery.Proofs.Sql.Joins

/-!
# Chains of joins

A relation path makes a chain: one join for each relation, each from the one before.

* `Criteria.chain`, `tip`: the joins of a chain, and the table at its end;
* `Linked`: joins that start one from the other; `Join.hop`: a join without its aliases;
* `IsBlock`: relations, join types, aliases and parents of a chain from the root, with
  **`Criteria.isBlock_chain`**;
* **`resolve_eq_ok_iff`**: a path resolves to a column at the tip of its chain, or not at all;
* **`Criteria.attributePath_chain`**: the path of that column is the path it was resolved from.
-/

namespace FilterQuery.Sql

/-- The table to which joins lead, one after the other. -/
def tip : Source → List Join → Source
  | source, [] => source
  | _, j :: js => tip j.source js

theorem tip_cons_mem (source : Source) (j : Join) (js : List Join) :
    ∃ k ∈ j :: js, tip source (j :: js) = k.source := by
  induction js generalizing source j with
  | nil => exact ⟨j, List.mem_cons_self, rfl⟩
  | cons k js ih =>
    obtain ⟨l, hl, h⟩ := ih j.source k
    exact ⟨l, List.mem_cons_of_mem _ hl, h⟩

theorem tip_mem (source : Source) (js : List Join) :
    tip source js = source ∨ ∃ j ∈ js, tip source js = j.source := by
  cases js with
  | nil => exact .inl rfl
  | cons j js => exact .inr (tip_cons_mem source j js)

/-- Each join starts where the one before it leads, and the first one from a table. -/
def Linked : Source → List Join → Prop
  | _, [] => True
  | source, j :: js => j.parentAlias = source.tableAlias ∧ Linked j.source js

/-- What is joined and how, whatever the aliases are. -/
def Join.hop (j : Join) : JoinType × Relation := (j.joinType, j.relation)

/-- The joins of relations from the root, one after the other, made after `n` others. -/
structure IsBlock (type : JoinType) (n : Nat) (relations : List String) (block : List Join) :
    Prop where
  names : block.map Join.name = relations
  types : ∀ j ∈ block, j.joinType = type
  aliases : block.map Join.tableAlias = (List.range' (n + 1) relations.length).map joinAlias
  parents : block.map Join.parentAlias = (rootAlias :: block.map Join.tableAlias).dropLast

namespace Criteria

/-- The joins of relations, one after the other, from a table. -/
def chain (type : JoinType) : Criteria → Source → List String → List Join
  | _, _, [] => []
  | c, parent, name :: rest =>
    c.nextJoin parent name type ::
      chain type (c.withJoins [c.nextJoin parent name type])
        (c.nextJoin parent name type).source rest

section

variable (type : JoinType) (c : Criteria) (parent : Source) (names : List String)

@[simp] theorem length_chain : (chain type c parent names).length = names.length := by
  induction names generalizing c parent with
  | nil => rfl
  | cons name rest ih => exact congrArg Nat.succ (ih _ _)

theorem map_name_chain : (chain type c parent names).map Join.name = names := by
  induction names generalizing c parent with
  | nil => rfl
  | cons name rest ih => exact congrArg (name :: ·) (ih _ _)

theorem joinType_of_mem_chain {j : Join} (h : j ∈ chain type c parent names) :
    j.joinType = type := by
  induction names generalizing c parent with
  | nil => cases h
  | cons name rest ih =>
    rcases List.mem_cons.1 h with rfl | h
    · rfl
    · exact ih _ _ h

theorem map_alias_chain : (chain type c parent names).map Join.tableAlias =
    (List.range' (c.joins.length + 1) names.length).map joinAlias := by
  induction names generalizing c parent with
  | nil => rfl
  | cons name rest ih =>
    rw [chain, List.map_cons, ih, List.length_cons, List.range'_succ, List.map_cons,
      joins_withJoins, List.length_append, List.length_singleton]
    rfl

theorem map_parentAlias_chain : (chain type c parent names).map Join.parentAlias =
    (parent.tableAlias :: (chain type c parent names).map Join.tableAlias).dropLast := by
  induction names generalizing c parent with
  | nil => rfl
  | cons name rest ih =>
    rw [chain, List.map_cons, List.map_cons, ih, List.dropLast_cons_cons]
    rfl

/-- **A chain from the root is a block of joins.** -/
theorem isBlock_chain : IsBlock type c.joins.length names (chain type c .root names) where
  names := map_name_chain type c .root names
  types := fun _ => joinType_of_mem_chain type c .root names
  aliases := map_alias_chain type c .root names
  parents := map_parentAlias_chain type c .root names

theorem linked_chain : Linked parent (chain type c parent names) := by
  induction names generalizing c parent with
  | nil => trivial
  | cons name rest ih => exact ⟨rfl, ih _ _⟩

theorem map_hop_chain (js : List Join) :
    (chain type (c.withJoins js) parent names).map Join.hop =
      (chain type c parent names).map Join.hop := by
  have key : ∀ (c d : Criteria) (p q : Source), d.relations = c.relations → q.path = p.path →
      (chain type d q names).map Join.hop = (chain type c p names).map Join.hop := by
    induction names with
    | nil => exact fun _ _ _ _ _ _ => rfl
    | cons name rest ih =>
      intro c d p q hr hp
      have hpath : (d.nextJoin q name type).source.path = (c.nextJoin p name type).source.path := by
        change extend q.path name = extend p.path name
        rw [hp]
      have hrel : (d.nextJoin q name type).relation = (c.nextJoin p name type).relation := by
        change d.relationAt (extend q.path name) name = c.relationAt (extend p.path name) name
        rw [relationAt, relationAt, hr, hp]
      rw [chain, chain, List.map_cons, List.map_cons, Join.hop, hrel,
        ih (c.withJoins [c.nextJoin p name type]) (d.withJoins [d.nextJoin q name type]) _ _ hr
          hpath]
      rfl
  exact key c (c.withJoins js) parent parent rfl rfl

theorem tip_path_chain :
    (tip parent (chain type c parent names)).path = names.foldl extend parent.path := by
  induction names generalizing c parent with
  | nil => rfl
  | cons name rest ih => exact ih _ _

end

variable {type : JoinType} {c c' : Criteria} {parent : Source} {names : List String}

theorem tip_chain_mem_sources (mem : parent ∈ sources c.joins) :
    tip parent (chain type c parent names) ∈ sources (c.joins ++ chain type c parent names) := by
  rcases tip_mem parent (chain type c parent names) with h | ⟨j, hj, h⟩
  · rw [h]
    exact sources_append_left mem
  · rw [h]
    exact source_mem (List.mem_append_right _ hj)

theorem numbered_chain (h : Numbered c.joins) :
    Numbered (c.joins ++ chain type c parent names) := by
  refine h.append ?_
  rw [length_chain, map_alias_chain]

theorem steps_chain (hn : ∀ name ∈ names, name ≠ "") :
    Steps c (c.withJoins (chain type c parent names)) := by
  induction names generalizing c parent with
  | nil => rw [chain, withJoins_nil]
  | cons name rest ih =>
    obtain ⟨hname, hrest⟩ := List.forall_mem_cons.1 hn
    rw [chain, ← List.singleton_append, ← withJoins_withJoins]
    exact .head (.join (addJoin_eq_ok_iff.2 ⟨hname, rfl, rfl⟩)) (ih hrest)

/-! ## Paths of columns -/

theorem foldl_extend {path : String} (h : path ≠ "") (names : List String) :
    names.foldl extend path = Text.joined "." (path :: names) := by
  induction names generalizing path with
  | nil => rfl
  | cons name rest ih =>
    have he : extend path name = path ++ "." ++ name := by
      rw [extend, if_neg (fun hp => h (String.isEmpty_iff.1 hp))]
    have hne : path ++ "." ++ name ≠ "" := by
      intro e
      have e' := congrArg String.length e
      rw [String.length_append, String.length_append] at e'
      change path.length + 1 + name.length = 0 at e'
      omega
    rw [List.foldl_cons, he, ih hne, Text.joined_merge]

theorem foldl_extend_empty {name : String} (h : name ≠ "") (rest : List String) :
    (name :: rest).foldl extend "" = Text.joined "." (name :: rest) := by
  rw [List.foldl_cons, show extend "" name = name from rfl, foldl_extend h]

/-- **A column at the tip of a chain has the path of the chain.** -/
theorem attributePath_chain (h : Numbered c.joins) (hn : ∀ name ∈ names, name ≠ "")
    (leaf : String) :
    (c.withJoins (chain type c .root names)).attributePath
        (.column (tip .root (chain type c .root names)).tableAlias leaf) =
      some (Text.joined "." (names ++ [leaf])) := by
  cases names with
  | nil => rfl
  | cons name rest =>
    have hg : Numbered (c.joins ++ chain type c .root (name :: rest)) := numbered_chain h
    have hpath := tip_path_chain type c .root (name :: rest)
    obtain ⟨j, hj, ht⟩ : ∃ j ∈ chain type c .root (name :: rest),
        tip .root (chain type c .root (name :: rest)) = j.source := tip_cons_mem _ _ _
    rw [ht, show Source.root.path = "" from rfl,
      foldl_extend_empty (hn name List.mem_cons_self)] at hpath
    have hj' : j ∈ c.joins ++ chain type c .root (name :: rest) := List.mem_append_right _ hj
    have hne : j.source.tableAlias ≠ rootAlias := fun e =>
      hg.rootAlias_notMem (e ▸ List.mem_map_of_mem hj')
    rw [ht, attributePath, if_neg hne, joins_withJoins,
      show j.source.tableAlias = j.tableAlias from rfl, hg.find?_alias hj', Option.map_some,
      show j.path = j.source.path from rfl, hpath, Text.joined_concat]

end Criteria

/-! ## Resolving paths -/

section

open RelationPath

variable {type : JoinType} {c c' : Criteria} {a : Operand}

theorem joinAt_backend (name : String) (position : Position Source) :
    joinAt Criteria.backend type name position =
      Criteria.addJoin (position.getD .root) name type := by
  cases position <;> rfl

theorem attrAt_backend (name : String) (position : Position Source) :
    attrAt Criteria.backend name position = Criteria.columnOf (position.getD .root) name := by
  cases position <;> rfl

theorem follow_eq_ok_iff {names : List String} {leaf : String} {position : Position Source} :
    follow Criteria.backend type leaf names position c = .ok a c' ↔
      (∀ name ∈ names, name ≠ "") ∧ leaf ≠ "" ∧
        a = .column (tip (position.getD .root)
          (Criteria.chain type c (position.getD .root) names)).tableAlias leaf ∧
        c' = c.withJoins (Criteria.chain type c (position.getD .root) names) := by
  induction names generalizing c position with
  | nil =>
    rw [follow, attrAt_backend, Criteria.columnOf_eq_ok_iff, Criteria.chain,
      Criteria.withJoins_nil]
    simp [tip]
  | cons name rest ih =>
    rw [follow, bind_eq_ok_iff, joinAt_backend, Criteria.chain]
    simp only [Criteria.addJoin_eq_ok_iff, ih, Option.getD_some, tip, List.forall_mem_cons]
    constructor
    · rintro ⟨_, _, ⟨hn, rfl, rfl⟩, hr, hl, ha, hc⟩
      rw [Criteria.withJoins_withJoins] at hc
      exact ⟨⟨hn, hr⟩, hl, ha, hc⟩
    · rintro ⟨⟨hn, hr⟩, hl, ha, hc⟩
      refine ⟨_, _, ⟨hn, rfl, rfl⟩, hr, hl, ha, ?_⟩
      rw [Criteria.withJoins_withJoins]
      exact hc

/-- **A path resolves to the column at the tip of its chain, or not at all.** -/
theorem resolve_eq_ok_iff {limit : Nat} {path : String} :
    resolve Criteria.backend type limit path c = .ok a c' ↔
      (path ≠ "" ∧ (∀ s ∈ (DottedPath.split path).segments, Text.allBlank s = false) ∧
        (DottedPath.split path).relations.length ≤ limit) ∧
      a = .column (tip .root
        (Criteria.chain type c .root (DottedPath.split path).relations)).tableAlias
          (DottedPath.split path).leaf ∧
      c' = c.withJoins (Criteria.chain type c .root (DottedPath.split path).relations) := by
  unfold resolve
  cases hr : readWithin limit path with
  | error e =>
    have hn : ¬ readWithin limit path = .ok (DottedPath.split path) := by simp [hr]
    rw [readWithin_eq_ok_iff] at hn
    simp only [reduceCtorEq, false_iff]
    rintro ⟨h, -⟩
    exact hn ⟨rfl, h⟩
  | ok p =>
    obtain ⟨rfl, hne, hb, hl⟩ := readWithin_eq_ok_iff.1 hr
    have hnames : ∀ name ∈ (DottedPath.split path).relations, name ≠ "" := fun name hm =>
      ne_empty_of_allBlank_eq_false (hb name (List.mem_append_left _ hm))
    have hleaf : (DottedPath.split path).leaf ≠ "" :=
      ne_empty_of_allBlank_eq_false (hb _ (List.mem_append_right _ List.mem_cons_self))
    dsimp only
    constructor
    · intro h
      cases hf : follow Criteria.backend type (DottedPath.split path).leaf
          (DottedPath.split path).relations none c with
      | error e d => simp [hf] at h
      | ok b d =>
        obtain ⟨-, -, hb', hd⟩ := follow_eq_ok_iff.1 hf
        rw [hf, EStateM.Result.ok.injEq] at h
        exact ⟨⟨hne, hb, hl⟩, h.1 ▸ hb', h.2 ▸ hd⟩
    · rintro ⟨-, ha, hc⟩
      rw [follow_eq_ok_iff.2 ⟨hnames, hleaf, ha, hc⟩]

end

end FilterQuery.Sql

import FilterQuery.Proofs.Sql.Leads
import FilterQuery.Proofs.Sql.Sort

/-!
# The way of a sort key

Several joins of one table may have the same relation. A sort key follows the first one, and where
there is none it adds a chain.

* `First`: the joins that a sort key takes; **`Criteria.first_chain_iff`**;
* `HasChain`, `FindsChain`: chains that are there, and chains that a sort key finds;
  `Criteria.hasChain_chain_iff`, `Criteria.findsChain_chain_iff`,
  `Criteria.findsChain_chain_of_child`;
* **`Criteria.reuseChain_eq_ok`**: a sort key follows first joins as far as it can, and then adds
  a chain.
-/

namespace FilterQuery.Sql

/-! ## First joins -/

/-- A join that is the first one of its relation, for the table that it starts from. -/
def First (js : List Join) (j : Join) : Prop := child js j.parentAlias j.name = some j

section

variable {js ks : List Join} {j k : Join} {a name : String}

theorem child_append (h : child js a name = some j) : child (js ++ ks) a name = some j := by
  rw [child, List.find?_append, ← child, h, Option.some_or]

theorem child_snoc_self (h : child js k.parentAlias k.name = none) :
    child (js ++ [k]) k.parentAlias k.name = some k := by
  rw [child, List.find?_append, ← child, h, Option.none_or]
  exact List.find?_cons_of_pos (by simp)

theorem First.mem (h : First js j) : j ∈ js := (child_eq_some h).1

theorem first_of_child (h : child js a name = some j) : First js j := by
  obtain ⟨-, rfl, rfl⟩ := child_eq_some h
  exact h

theorem First.append (h : First js j) : First (js ++ ks) j := child_append h

theorem First.of_append (h : First (js ++ ks) j) (hj : j ∈ js) : First js j := by
  unfold First child at h ⊢
  rw [List.find?_append] at h
  cases hc : js.find? fun k => k.parentAlias == j.parentAlias && k.name == j.name with
  | some k =>
    rw [hc, Option.some_or] at h
    exact h
  | none =>
    rw [List.find?_eq_none] at hc
    exact absurd (by simp) (hc j hj)

theorem first_snoc_iff (hn : (js ++ [k]).Nodup) : First (js ++ [k]) j ↔
    First js j ∨ j = k ∧ child js k.parentAlias k.name = none := by
  constructor
  · intro h
    rcases List.mem_append.1 h.mem with hj | hj
    · exact .inl (h.of_append hj)
    · obtain rfl := List.mem_singleton.1 hj
      refine .inr ⟨rfl, ?_⟩
      cases hc : child js j.parentAlias j.name with
      | none => rfl
      | some i =>
        have hi : some i = some j := (child_append hc).symm.trans h
        obtain rfl := Option.some.inj hi
        rw [List.nodup_append] at hn
        exact absurd rfl (hn.2.2 i (child_eq_some hc).1 i hj)
  · rintro (h | ⟨rfl, hc⟩)
    · exact h.append
    · exact child_snoc_self hc

end

namespace Criteria

variable {type : JoinType} {c c' : Criteria} {parent source : Source} {j : Join}
  {name : String} {names way target : List String}

section

variable (type name) (ht : JoinTree c.joins) (mem : parent ∈ sources c.joins)
include ht mem

theorem child_nextJoin (n : String) : child (c.withJoins [c.nextJoin parent name type]).joins
    (c.nextJoin parent name type).source.tableAlias n = none :=
  child_eq_none_iff.2 fun j hj heq => absurd heq (leaf_nextJoin type name ht mem j hj)

theorem first_nextJoin_iff : First (c.withJoins [c.nextJoin parent name type]).joins j ↔
    First c.joins j ∨ j = c.nextJoin parent name type ∧
      child c.joins parent.tableAlias name = none :=
  first_snoc_iff (List.Nodup.of_map _ (tree_nextJoin type name ht mem).numbered.nodup_alias)

end

/-- **The joins of a chain are first joins**, unless the chain starts like another one. -/
theorem first_chain_iff (ht : JoinTree c.joins) (mem : parent ∈ sources c.joins)
    (free : ∀ name ∈ names.head?, child c.joins parent.tableAlias name = none) :
    First (c.joins ++ chain type c parent names) j ↔
      First c.joins j ∨ j ∈ chain type c parent names := by
  induction names generalizing c parent with
  | nil => simp [chain]
  | cons name names ih =>
    rw [chain, List.append_cons, List.mem_cons, ← or_assoc]
    refine (ih (tree_nextJoin type name ht mem) source_nextJoin_mem fun n _ =>
      child_nextJoin type name ht mem n).trans (or_congr_left ?_)
    rw [first_nextJoin_iff type name ht mem]
    exact or_congr_right (and_iff_left (free name rfl))

theorem first_chain_of_child (ht : JoinTree c.joins) (mem : parent ∈ sources c.joins) {i : Join}
    (taken : child c.joins parent.tableAlias name = some i) :
    First (c.joins ++ chain type c parent (name :: names)) j ↔ First c.joins j ∨
      j ∈ chain type (c.withJoins [c.nextJoin parent name type])
        (c.nextJoin parent name type).source names := by
  rw [chain, List.append_cons]
  refine (first_chain_iff (tree_nextJoin type name ht mem) source_nextJoin_mem fun n _ =>
    child_nextJoin type name ht mem n).trans (or_congr_left ?_)
  rw [first_nextJoin_iff type name ht mem, taken]
  simp

theorem parentAlias_mem_chain (h : j ∈ chain type c parent names) :
    j.parentAlias = parent.tableAlias ∨
      j.parentAlias ∈ (chain type c parent names).map Join.tableAlias := by
  have hp : j.parentAlias ∈ (chain type c parent names).map Join.parentAlias :=
    List.mem_map_of_mem h
  rw [map_parentAlias_chain] at hp
  exact List.mem_cons.1 (List.dropLast_subset _ hp)

end Criteria

/-! ## Chains that are there, and chains that are found -/

/-- A chain of joins from the root has these names. -/
def HasChain (js : List Join) (names : List String) : Prop := ∃ a, Leads (· ∈ js) names a

/-- A chain of first joins from the root has these names. -/
def FindsChain (js : List Join) (names : List String) : Prop := ∃ a, Leads (First js) names a

section

variable {js ks : List Join} {names target way : List String} {a b name : String}

theorem Leads.of_first (h : Leads (First js) names a) : Leads (· ∈ js) names a :=
  h.mono fun _ => First.mem

theorem Leads.first_append (h : Leads (First js) names a) : Leads (First (js ++ ks)) names a :=
  h.mono fun _ => First.append

theorem Leads.first_unique (h : Leads (First js) names a) (h' : Leads (First js) names b) :
    a = b := by
  induction h generalizing b with
  | root =>
    rcases h'.eq_or with ⟨-, rfl⟩ | ⟨init, j, he, -⟩
    · rfl
    · simp at he
  | @join names j h hj ih =>
    rcases h'.eq_or with ⟨he, -⟩ | ⟨init, k, he, rfl, hk, hinit⟩
    · simp at he
    · obtain ⟨rfl, hname⟩ := List.append_inj' he rfl
      have hparent : j.parentAlias = k.parentAlias := ih hinit
      unfold First at hj hk
      rw [hparent, List.singleton_inj.1 hname, hk] at hj
      rw [Option.some.inj hj]

theorem FindsChain.of_isPrefix (h : FindsChain js names) (hp : target <+: names) :
    FindsChain js target :=
  h.elim fun _ h => h.exists_of_isPrefix hp

theorem not_findsChain_of_child (hw : Leads (First js) way a) (free : child js a name = none) :
    ¬ FindsChain js (way ++ name :: names) := by
  intro h
  have hp : way ++ [name] <+: way ++ name :: names :=
    (List.prefix_append_right_inj way).2 (List.cons_prefix_cons.2 ⟨rfl, List.nil_prefix⟩)
  obtain ⟨b, hb⟩ := h.of_isPrefix hp
  rcases hb.eq_or with ⟨he, -⟩ | ⟨init, j, he, -, hj, hinit⟩
  · simp at he
  · obtain ⟨rfl, hname⟩ := List.append_inj' he rfl
    have hparent : a = j.parentAlias := hw.first_unique hinit
    rw [hparent, List.singleton_inj.1 hname, hj] at free
    cases free

end

namespace Criteria

variable {type : JoinType} {c c' : Criteria} {parent source : Source} {j : Join} {name : String}
  {names way target : List String}

section

variable (ht : JoinTree c.joins) (mem : parent ∈ sources c.joins)
include ht mem

theorem parentAlias_ne_of_mem_chain (h : j ∈ chain type (c.withJoins [c.nextJoin parent name type])
    (c.nextJoin parent name type).source names) :
    ∀ source ∈ sources c.joins, j.parentAlias ≠ source.tableAlias := by
  intro source hs heq
  have htree : JoinTree (c.joins ++ chain type c parent (name :: names)) := tree_chain ht mem
  refine htree.numbered.alias_notMem hs ?_
  rw [← heq, chain, List.map_cons]
  exact List.mem_cons.2 (parentAlias_mem_chain h)

theorem child_chain_eq_none_iff {n : String} :
    child (c.joins ++ chain type c parent (name :: names)) parent.tableAlias n = none ↔
      child c.joins parent.tableAlias n = none ∧ name ≠ n := by
  rw [child_eq_none_iff, child_eq_none_iff]
  constructor
  · intro h
    exact ⟨fun j hj => h j (List.mem_append_left _ hj),
      h (c.nextJoin parent name type) (List.mem_append_right _ List.mem_cons_self) rfl⟩
  · rintro ⟨h, hne⟩ j hj hparent
    rcases List.mem_append.1 hj with hj | hj
    · exact h j hj hparent
    · rcases List.mem_cons.1 hj with rfl | hj
      · exact hne
      · exact absurd hparent (parentAlias_ne_of_mem_chain ht mem hj parent mem)

theorem hasChain_chain_iff (hw : Leads (· ∈ c.joins) way parent.tableAlias) :
    HasChain (c.joins ++ chain type c parent names) target ↔
      HasChain c.joins target ∨ target <+: way ++ names := by
  have hmem : ∀ j, j ∈ c.joins ++ chain type c parent names ↔
      (j ∈ c.joins ∨ j ∈ chain type c parent names) := fun _ => List.mem_append
  unfold HasChain
  simp only [Leads.congr hmem]
  exact exists_leads_chain_iff ht mem (fun _ hj => hj) hw

theorem findsChain_chain_iff (hw : Leads (First c.joins) way parent.tableAlias)
    (free : ∀ name ∈ names.head?, child c.joins parent.tableAlias name = none) :
    FindsChain (c.joins ++ chain type c parent names) target ↔
      FindsChain c.joins target ∨ target <+: way ++ names := by
  have hfirst : ∀ j, First (c.joins ++ chain type c parent names) j ↔
      (First c.joins j ∨ j ∈ chain type c parent names) := fun _ => first_chain_iff ht mem free
  unfold FindsChain
  simp only [Leads.congr hfirst]
  exact exists_leads_chain_iff ht mem (fun _ => First.mem) hw

theorem findsChain_chain_of_child {i : Join}
    (taken : child c.joins parent.tableAlias name = some i) :
    FindsChain (c.joins ++ chain type c parent (name :: names)) target ↔
      FindsChain c.joins target := by
  have hfirst : ∀ j, First (c.joins ++ chain type c parent (name :: names)) j ↔
      (First c.joins j ∨ j ∈ chain type (c.withJoins [c.nextJoin parent name type])
        (c.nextJoin parent name type).source names) := fun _ => first_chain_of_child ht mem taken
  have hunknown : ∀ j ∈ chain type (c.withJoins [c.nextJoin parent name type])
      (c.nextJoin parent name type).source names, ∀ source ∈ sources c.joins,
        j.parentAlias ≠ source.tableAlias := fun _ hj => parentAlias_ne_of_mem_chain ht mem hj
  unfold FindsChain
  simp only [Leads.congr hfirst, Leads.or_iff_of_unreachable (fun _ => First.mem) hunknown]

end

/-! ## The walk of a sort key -/

theorem reuseChain_of_leaf (ht : JoinTree c.joins) (mem : parent ∈ sources c.joins)
    (leaf : ∀ j ∈ c.joins, j.parentAlias ≠ parent.tableAlias)
    (h : reuseChain names parent c = .ok source c') :
    source = tip parent (chain .left c parent names) ∧
      c' = c.withJoins (chain .left c parent names) := by
  induction names generalizing c parent with
  | nil =>
    obtain ⟨rfl, rfl⟩ := pure_eq_ok_iff.1 h
    exact ⟨rfl, (withJoins_nil _).symm⟩
  | cons name names ih =>
    obtain ⟨next, d, hj, hr⟩ := reuseChain_cons_eq_ok_iff.1 h
    rcases reuseJoin_eq_ok_iff.1 hj with ⟨j, hfind, -, -⟩ | ⟨-, -, rfl, rfl⟩
    · obtain ⟨hjmem, hparent, -⟩ := child_eq_some hfind
      exact absurd hparent (leaf j hjmem)
    · obtain ⟨rfl, rfl⟩ := ih (tree_nextJoin .left name ht mem) source_nextJoin_mem
        (leaf_nextJoin .left name ht mem) hr
      exact ⟨rfl, withJoins_withJoins _ _ _⟩

/-- **A sort key follows first joins as far as it can, and then adds a chain.** -/
theorem reuseChain_eq_ok (ht : JoinTree c.joins) (mem : parent ∈ sources c.joins)
    (hw : Leads (First c.joins) way parent.tableAlias)
    (h : reuseChain names parent c = .ok source c') :
    ∃ (walked left : List String) (last : Source), names = walked ++ left ∧
      last ∈ sources c.joins ∧ Leads (First c.joins) (way ++ walked) last.tableAlias ∧
      (∀ name ∈ left.head?, child c.joins last.tableAlias name = none) ∧
      source = tip last (chain .left c last left) ∧ c' = c.withJoins (chain .left c last left) := by
  induction names generalizing parent way with
  | nil =>
    obtain ⟨rfl, rfl⟩ := pure_eq_ok_iff.1 h
    refine ⟨[], [], source, rfl, mem, ?_, ?_, rfl, (withJoins_nil _).symm⟩
    · rwa [List.append_nil]
    · intro name hname
      cases hname
  | cons name names ih =>
    obtain ⟨next, d, hj, hr⟩ := reuseChain_cons_eq_ok_iff.1 h
    rcases reuseJoin_eq_ok_iff.1 hj with ⟨j, hfind, rfl, rfl⟩ | ⟨hnone, -, rfl, rfl⟩
    · obtain ⟨hjmem, hparent, hname⟩ := child_eq_some hfind
      have hw' : Leads (First d.joins) (way ++ [name]) j.source.tableAlias := by
        rw [← hname]
        rw [← hparent] at hw
        exact .join hw (first_of_child hfind)
      obtain ⟨walked, left, last, rfl, hlast, hlead, hfree, hsource, hc⟩ :=
        ih (source_mem hjmem) hw' hr
      refine ⟨name :: walked, left, last, rfl, hlast, ?_, hfree, hsource, hc⟩
      rwa [List.append_cons]
    · obtain ⟨rfl, rfl⟩ := reuseChain_of_leaf (tree_nextJoin .left name ht mem)
        source_nextJoin_mem (leaf_nextJoin .left name ht mem) hr
      refine ⟨[], name :: names, parent, rfl, mem, ?_, ?_, rfl, withJoins_withJoins _ _ _⟩
      · rwa [List.append_nil]
      · intro n hn
        obtain rfl := Option.some.inj hn
        exact hnone

end Criteria

end FilterQuery.Sql

import FilterQuery.Proofs.Sql.Chain

/-!
# Where chains of joins lead

Joins form a tree below the root, in which names lead from one join to the next.

* `JoinTree`: numbered joins that start from the root or from each other;
* `Leads`: names that lead from the root to a table; **`Leads.inter`**: by one way only;
* **`Criteria.leads_chain_iff`**: where one more chain leads.
-/

namespace FilterQuery.Sql

/-! ## Trees of joins -/

/-- Numbered joins, each of which starts from the root or from one of them. -/
structure JoinTree (js : List Join) : Prop where
  numbered : Numbered js
  rooted : ∀ j ∈ js, ∃ source ∈ sources js, j.parentAlias = source.tableAlias

namespace JoinTree

variable {js : List Join}

theorem nil : JoinTree [] := ⟨.nil, fun _ h => absurd h List.not_mem_nil⟩

theorem snoc (h : JoinTree js) {j : Join} {parent : Source} (mem : parent ∈ sources js)
    (parent_eq : j.parentAlias = parent.tableAlias)
    (alias_eq : j.tableAlias = joinAlias (js.length + 1)) : JoinTree (js ++ [j]) := by
  refine ⟨h.numbered.snoc alias_eq, fun k hk => ?_⟩
  rcases List.mem_append.1 hk with hk | hk
  · obtain ⟨source, hs, he⟩ := h.rooted k hk
    exact ⟨source, sources_append_left hs, he⟩
  · rw [List.mem_singleton.1 hk]
    exact ⟨parent, sources_append_left mem, parent_eq⟩

theorem parentAlias_ne {ks : List Join} {j k : Join} (h : JoinTree js) (hn : Numbered (js ++ ks))
    (hj : j ∈ js) (hk : k ∈ ks) : j.parentAlias ≠ k.tableAlias := by
  obtain ⟨source, hs, he⟩ := h.rooted j hj
  intro heq
  refine hn.alias_notMem hs ?_
  rw [← he, heq]
  exact List.mem_map_of_mem hk

theorem leaf {k : Join} {parent : Source} (h : JoinTree js) (hk : JoinTree (js ++ [k]))
    (mem : parent ∈ sources js) (parent_eq : k.parentAlias = parent.tableAlias) :
    ∀ j ∈ js ++ [k], j.parentAlias ≠ k.tableAlias := by
  intro j hj
  rcases List.mem_append.1 hj with hj | hj
  · exact h.parentAlias_ne hk.numbered hj (List.mem_singleton_self k)
  · rw [List.mem_singleton.1 hj, parent_eq]
    intro heq
    refine hk.numbered.alias_notMem mem ?_
    rw [heq]
    exact List.mem_singleton_self _

end JoinTree

/-! ## Where names lead -/

/-- Joins of a kind with these names, one after the other, lead from the root to an alias. -/
inductive Leads (M : Join → Prop) : List String → String → Prop
  | root : Leads M [] rootAlias
  | join {names : List String} {j : Join} (h : Leads M names j.parentAlias) (hj : M j) :
      Leads M (names ++ [j.name]) j.tableAlias

namespace Leads

variable {M M' : Join → Prop} {js : List Join} {names names' : List String} {a : String}

theorem eq_or (h : Leads M names a) : (names = [] ∧ a = rootAlias) ∨
    ∃ init j, names = init ++ [j.name] ∧ a = j.tableAlias ∧ M j ∧ Leads M init j.parentAlias := by
  cases h with
  | root => exact .inl ⟨rfl, rfl⟩
  | join h hj => exact .inr ⟨_, _, rfl, rfl, hj, h⟩

theorem mono (h : Leads M names a) (hM : ∀ j, M j → M' j) : Leads M' names a := by
  induction h with
  | root => exact .root
  | join _ hj ih => exact .join ih (hM _ hj)

theorem congr (hM : ∀ j, M j ↔ M' j) : Leads M names a ↔ Leads M' names a :=
  ⟨fun h => h.mono fun j => (hM j).1, fun h => h.mono fun j => (hM j).2⟩

theorem mem_sources (h : Leads M names a) (hM : ∀ j, M j → j ∈ js) :
    ∃ source ∈ sources js, a = source.tableAlias := by
  cases h with
  | root => exact ⟨.root, List.mem_cons_self, rfl⟩
  | join _ hj => exact ⟨_, source_mem (hM _ hj), rfl⟩

theorem exists_of_isPrefix (h : Leads M names a) {init : List String} (hp : init <+: names) :
    ∃ b, Leads M init b := by
  induction h generalizing init with
  | root =>
    rw [List.prefix_nil.1 hp]
    exact ⟨_, .root⟩
  | join h hj ih =>
    rcases List.prefix_concat_iff.1 hp with rfl | hp
    · exact ⟨_, .join h hj⟩
    · exact ih hp

/-- **Only one way leads to a table.** -/
theorem inter (h : Leads M names a) (h' : Leads M' names' a) (hn : Numbered js)
    (hM : ∀ j, M j → j ∈ js) (hM' : ∀ j, M' j → j ∈ js) :
    names = names' ∧ Leads (fun j => M j ∧ M' j) names a := by
  have hroot : ∀ j ∈ js, rootAlias ≠ j.tableAlias := fun j hj heq =>
    hn.rootAlias_notMem (heq ▸ List.mem_map_of_mem hj)
  induction h generalizing names' with
  | root =>
    rcases h'.eq_or with ⟨rfl, -⟩ | ⟨_, j, -, heq, hj, -⟩
    · exact ⟨rfl, .root⟩
    · exact absurd heq (hroot j (hM' j hj))
  | @join names j h hj ih =>
    rcases h'.eq_or with ⟨-, heq⟩ | ⟨init, k, rfl, heq, hk, hinit⟩
    · exact absurd heq.symm (hroot j (hM j hj))
    · obtain rfl : j = k := List.inj_on_of_nodup_map hn.nodup_alias (hM j hj) (hM' k hk) heq
      obtain ⟨rfl, hboth⟩ := ih hinit
      exact ⟨rfl, .join hboth ⟨hj, hk⟩⟩

theorem or_eq_iff {k : Join} {way : List String} (ht : JoinTree js) (hM : ∀ j, M j → j ∈ js)
    (hk : JoinTree (js ++ [k])) (hw : Leads M way k.parentAlias) :
    Leads (fun j => M j ∨ j = k) names a ↔
      Leads M names a ∨ names = way ++ [k.name] ∧ a = k.tableAlias := by
  obtain ⟨source, hs, he⟩ := hw.mem_sources hM
  have hleaf : ∀ j ∈ js ++ [k], j.parentAlias ≠ k.tableAlias := ht.leaf hk hs he
  constructor
  · intro h
    induction h with
    | root => exact .inl .root
    | @join names j h hj ih =>
      rcases hj with hj | rfl
      · rcases ih with ih | ⟨-, heq⟩
        · exact .inl (.join ih hj)
        · exact absurd heq (hleaf j (List.mem_append_left _ (hM j hj)))
      · rcases ih with ih | ⟨-, heq⟩
        · obtain ⟨rfl, -⟩ := ih.inter hw ht.numbered hM hM
          exact .inr ⟨rfl, rfl⟩
        · exact absurd heq (hleaf j (List.mem_append_right _ (List.mem_singleton_self j)))
  · rintro (h | ⟨rfl, rfl⟩)
    · exact h.mono fun _ => .inl
    · exact .join (hw.mono fun _ => .inl) (.inr rfl)

theorem or_iff_of_unreachable {D : Join → Prop} (hM : ∀ j, M j → j ∈ js)
    (hD : ∀ j, D j → ∀ source ∈ sources js, j.parentAlias ≠ source.tableAlias) :
    Leads (fun j => M j ∨ D j) names a ↔ Leads M names a := by
  constructor
  · intro h
    induction h with
    | root => exact .root
    | @join names j h hj ih =>
      rcases hj with hj | hj
      · exact .join ih hj
      · obtain ⟨source, hs, he⟩ := ih.mem_sources hM
        exact absurd he (hD j hj source hs)
  · exact fun h => h.mono fun _ => .inl

end Leads

/-! ## One more chain -/

theorem prefix_append_iff {names target way : List String} : target <+: way ++ names ↔
    target <+: way ∨ ∃ init, init ≠ [] ∧ init <+: names ∧ target = way ++ init := by
  constructor
  · intro h
    rcases List.prefix_or_prefix_of_prefix h (List.prefix_append way names) with hp | ⟨init, rfl⟩
    · exact .inl hp
    · by_cases hi : init = []
      · rw [hi, List.append_nil]
        exact .inl (List.prefix_refl way)
      · exact .inr ⟨init, hi, (List.prefix_append_right_inj way).1 h, rfl⟩
  · rintro (hp | ⟨init, -, hp, rfl⟩)
    · exact hp.trans (List.prefix_append way names)
    · exact (List.prefix_append_right_inj way).2 hp

namespace Criteria

variable {type : JoinType} {c : Criteria} {parent : Source} {name : String}
  {names rest way : List String}

section

variable (type name) (ht : JoinTree c.joins) (mem : parent ∈ sources c.joins)
include ht mem

theorem tree_nextJoin : JoinTree (c.withJoins [c.nextJoin parent name type]).joins :=
  ht.snoc mem rfl rfl

theorem leaf_nextJoin : ∀ j ∈ (c.withJoins [c.nextJoin parent name type]).joins,
    j.parentAlias ≠ (c.nextJoin parent name type).source.tableAlias :=
  ht.leaf (tree_nextJoin type name ht mem) mem rfl

end

theorem source_nextJoin_mem : (c.nextJoin parent name type).source ∈
    sources (c.withJoins [c.nextJoin parent name type]).joins :=
  source_mem (List.mem_append_right _ (List.mem_singleton_self _))

theorem tree_chain (ht : JoinTree c.joins) (mem : parent ∈ sources c.joins) :
    JoinTree (c.joins ++ chain type c parent names) := by
  induction names generalizing c parent with
  | nil => rwa [chain, List.append_nil]
  | cons name names ih =>
    rw [chain, List.append_cons]
    exact ih (tree_nextJoin type name ht mem) source_nextJoin_mem

theorem chain_isPrefix (h : rest <+: names) :
    chain type c parent rest <+: chain type c parent names := by
  induction rest generalizing c parent names with
  | nil => exact List.nil_prefix
  | cons name rest ih =>
    obtain ⟨_, rfl⟩ := h
    rw [List.cons_append, chain, chain]
    exact List.cons_prefix_cons.2 ⟨rfl, ih (List.prefix_append _ _)⟩

/-- **Where one more chain leads.** -/
theorem leads_chain_iff {M : Join → Prop} {target : List String} {a : String}
    (ht : JoinTree c.joins) (mem : parent ∈ sources c.joins) (hM : ∀ j, M j → j ∈ c.joins)
    (hw : Leads M way parent.tableAlias) :
    Leads (fun j => M j ∨ j ∈ chain type c parent names) target a ↔ Leads M target a ∨
      ∃ init, init ≠ [] ∧ init <+: names ∧ target = way ++ init ∧
        a = (tip parent (chain type c parent init)).tableAlias := by
  induction names generalizing c parent way M with
  | nil =>
    have hM' : ∀ j, (M j ∨ j ∈ chain type c parent []) ↔ M j := fun j => by simp [chain]
    rw [Leads.congr hM']
    constructor
    · exact .inl
    · rintro (h | ⟨init, hne, hp, -, -⟩)
      · exact h
      · exact absurd (List.prefix_nil.1 hp) hne
  | cons name names ih =>
    set k := c.nextJoin parent name type with hk
    have ht' : JoinTree (c.withJoins [k]).joins := tree_nextJoin type name ht mem
    have hM₁ : ∀ j, M j ∨ j = k → j ∈ (c.withJoins [k]).joins := by
      rintro j (hj | rfl)
      · exact List.mem_append_left _ (hM j hj)
      · exact List.mem_append_right _ (List.mem_singleton_self _)
    have hone : ∀ {target a}, Leads (fun j => M j ∨ j = k) target a ↔
        Leads M target a ∨ target = way ++ [name] ∧ a = k.tableAlias := fun {_ _} =>
      Leads.or_eq_iff ht hM ht' hw
    have hw₁ : Leads (fun j => M j ∨ j = k) (way ++ [name]) k.source.tableAlias :=
      hone.2 (.inr ⟨rfl, rfl⟩)
    have hM' : ∀ j, (M j ∨ j ∈ chain type c parent (name :: names)) ↔
        ((M j ∨ j = k) ∨ j ∈ chain type (c.withJoins [k]) k.source names) := fun j => by
      rw [chain, List.mem_cons, or_assoc]
    rw [Leads.congr hM', ih ht' source_nextJoin_mem hM₁ hw₁, hone, or_assoc]
    refine or_congr_right ?_
    -- The chain up to a name is one join, or that join and a chain behind it.
    constructor
    · rintro (⟨rfl, rfl⟩ | ⟨init, hne, hp, rfl, rfl⟩)
      · exact ⟨[name], List.cons_ne_nil _ _, by simp, rfl, rfl⟩
      · exact ⟨name :: init, List.cons_ne_nil _ _, List.cons_prefix_cons.2 ⟨rfl, hp⟩, by simp, rfl⟩
    · rintro ⟨init, hne, hp, rfl, rfl⟩
      rcases List.prefix_cons_iff.1 hp with rfl | ⟨init, rfl, hp'⟩
      · exact absurd rfl hne
      · by_cases hi : init = []
        · subst hi
          exact .inl ⟨rfl, rfl⟩
        · exact .inr ⟨init, hi, hp', by simp, rfl⟩

theorem exists_leads_chain_iff {M : Join → Prop} {target : List String} (ht : JoinTree c.joins)
    (mem : parent ∈ sources c.joins) (hM : ∀ j, M j → j ∈ c.joins)
    (hw : Leads M way parent.tableAlias) :
    (∃ a, Leads (fun j => M j ∨ j ∈ chain type c parent names) target a) ↔
      (∃ a, Leads M target a) ∨ target <+: way ++ names := by
  rw [prefix_append_iff]
  constructor
  · rintro ⟨a, h⟩
    rcases (leads_chain_iff ht mem hM hw).1 h with h | ⟨init, hne, hp, he, -⟩
    · exact .inl ⟨a, h⟩
    · exact .inr (.inr ⟨init, hne, hp, he⟩)
  · rintro (⟨a, h⟩ | hp | ⟨init, hne, hp, he⟩)
    · exact ⟨a, (leads_chain_iff ht mem hM hw).2 (.inl h)⟩
    · obtain ⟨a, h⟩ := hw.exists_of_isPrefix hp
      exact ⟨a, (leads_chain_iff ht mem hM hw).2 (.inl h)⟩
    · exact ⟨_, (leads_chain_iff ht mem hM hw).2 (.inr ⟨init, hne, hp, he, rfl⟩)⟩

end Criteria

end FilterQuery.Sql

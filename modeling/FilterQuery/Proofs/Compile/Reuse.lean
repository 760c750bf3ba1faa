import FilterQuery.Proofs.Compile.Fields
import FilterQuery.Proofs.Rows.Sorting
import FilterQuery.Proofs.Sql.First

/-!
# When a sort key reuses the joins of a constraint

Each field has a chain of joins of its own, so several chains may start alike. A sort key only finds
the first of them.

* `leader`: the relations of the first field that start like those of a key;
* **`Built.hasChain_iff`**, **`Built.findsChain_iff`**: the chains that compiled fields make, and
  those that a sort key finds;
* `Criteria.sortOperands_chains`: what sort keys add to both;
* `Criteria.Reuses`, `Criteria.AddsNewOnly`: a sort key takes a chain of the constraint; it adds
  joins for new chains only;
* **`finish_reuse_iff`**: when they do.
-/

namespace FilterQuery

open Sql

/-- The relations that a sort key follows. -/
def SortKey.relations (k : SortKey) : List String := (DottedPath.split k.column).relations

/-- The attribute at the end of them. -/
def SortKey.leaf (k : SortKey) : String := (DottedPath.split k.column).leaf

/-- The first of some chains that starts with the same relation. -/
def leader (chains : List (List String)) (names : List String) : List String :=
  (chains.find? fun ns => ns.head? == names.head?).getD []

/-- The relations of fields. -/
def chainsOf (fields : List (Declaration × Input)) : List (List String) :=
  fields.map fun f => f.1.relations

theorem chainsOf_cons (d : Declaration) (input : Input) (rest : List (Declaration × Input)) :
    chainsOf ((d, input) :: rest) = d.relations :: chainsOf rest := rfl

theorem leader_cons_of_ne {chain names : List String} {chains : List (List String)}
    (h : chain.head? ≠ names.head?) : leader (chain :: chains) names = leader chains names := by
  rw [leader, List.find?_cons_of_neg (by simpa using h)]
  rfl

theorem leader_cons_of_eq {chain names : List String} {chains : List (List String)}
    (h : chain.head? = names.head?) : leader (chain :: chains) names = chain := by
  rw [leader, List.find?_cons_of_pos (by simpa using h)]
  rfl

/-! ## The chains of fields -/

namespace Built

variable {c : Compiler} {s : Criteria} {fields : List (Declaration × Input)}
  {blocks : List (List Join)} {ps : List Constraint} {names : List String}

theorem tree (h : Built c s fields blocks ps) (ht : JoinTree s.joins) :
    JoinTree (s.joins ++ blocks.flatten) := by
  induction h with
  | nil => rwa [List.flatten_nil, List.append_nil]
  | cons _ _ _ ih =>
    rw [List.flatten_cons, ← List.append_assoc]
    exact ih (Criteria.tree_chain ht List.mem_cons_self)

/-- **Compiled fields make the chains of their relations.** -/
theorem hasChain_iff (h : Built c s fields blocks ps) (ht : JoinTree s.joins) :
    HasChain (s.joins ++ blocks.flatten) names ↔
      HasChain s.joins names ∨ ∃ chain ∈ chainsOf fields, names <+: chain := by
  induction h with
  | nil => simp [chainsOf]
  | @cons s d input p rest blocks ps _ _ _ ih =>
    have hblock : HasChain (c.located s d).joins names ↔
        HasChain s.joins names ∨ names <+: d.relations :=
      Criteria.hasChain_chain_iff ht List.mem_cons_self .root
    have htree : JoinTree (c.located s d).joins := Criteria.tree_chain ht List.mem_cons_self
    rw [List.flatten_cons, ← List.append_assoc]
    refine (ih htree).trans ?_
    rw [hblock, or_assoc, chainsOf_cons]
    simp only [List.mem_cons, or_and_right, exists_or, exists_eq_left]

/-- **A sort key finds the chain of the first field that starts like it**, unless a join before
starts like it. -/
theorem findsChain_iff (h : Built c s fields blocks ps) (ht : JoinTree s.joins) {name : String} :
    FindsChain (s.joins ++ blocks.flatten) (name :: names) ↔ FindsChain s.joins (name :: names) ∨
      child s.joins rootAlias name = none ∧
        name :: names <+: leader (chainsOf fields) (name :: names) := by
  induction h with
  | nil => simp [chainsOf, leader]
  | @cons s d input p rest blocks ps _ _ _ ih =>
    have htree : JoinTree (c.located s d).joins := Criteria.tree_chain ht List.mem_cons_self
    rw [List.flatten_cons, ← List.append_assoc]
    refine (ih htree).trans ?_
    rw [chainsOf_cons]
    cases hd : d.relations with
    | nil =>
      have hnone : (c.located s d).joins = s.joins := by
        rw [Compiler.located, Compiler.block, hd, Criteria.chain, Criteria.withJoins_nil]
      rw [hnone, leader_cons_of_ne (by simp)]
    | cons first others =>
      have hjoins : (c.located s d).joins =
          s.joins ++ Criteria.chain c.config.joinType s .root (first :: others) := by
        rw [Compiler.located, Compiler.block, hd, Criteria.joins_withJoins]
      have hchild : child (c.located s d).joins rootAlias name = none ↔
          child s.joins rootAlias name = none ∧ first ≠ name := by
        rw [hjoins]
        exact Criteria.child_chain_eq_none_iff ht List.mem_cons_self
      rw [hchild]
      -- The chain of the field is found unless an earlier one starts like it.
      cases hc : child s.joins rootAlias first with
      | none =>
        have hfound : FindsChain (c.located s d).joins (name :: names) ↔
            FindsChain s.joins (name :: names) ∨ name :: names <+: first :: others := by
          rw [hjoins]
          refine Criteria.findsChain_chain_iff ht List.mem_cons_self .root fun n hn => ?_
          rw [← Option.some.inj hn]
          exact hc
        rw [hfound]
        by_cases hname : first = name
        · subst hname
          have hlead : leader ((first :: others) :: chainsOf rest) (first :: names) =
              first :: others := leader_cons_of_eq rfl
          rw [hlead]
          simp [hc]
        · rw [leader_cons_of_ne (by simpa using hname)]
          have hother : ¬ name :: names <+: first :: others := fun hp =>
            hname (List.cons_prefix_cons.1 hp).1.symm
          simp [hname, hother]
      | some i =>
        have hfound : FindsChain (c.located s d).joins (name :: names) ↔
            FindsChain s.joins (name :: names) := by
          rw [hjoins]
          exact Criteria.findsChain_chain_of_child ht List.mem_cons_self hc
        rw [hfound]
        by_cases hname : first = name
        · subst hname
          simp [hc]
        · rw [leader_cons_of_ne (by simpa using hname)]
          simp [hname]

end Built

/-- The chains that fields make of criteria without joins, and those that a sort key finds. -/
theorem Built.chains_of_fresh {c : Compiler} {s : Criteria}
    {fields : List (Declaration × Input)} {blocks : List (List Join)} {ps : List Constraint}
    (h : Built c s fields blocks ps) (fresh : s.joins = []) {names : List String}
    (hn : names ≠ []) :
    (HasChain (s.withJoins blocks.flatten).joins names ↔
      ∃ chain ∈ chainsOf fields, names <+: chain) ∧
    (FindsChain (s.withJoins blocks.flatten).joins names ↔
      names <+: leader (chainsOf fields) names) := by
  have ht : JoinTree s.joins := fresh ▸ JoinTree.nil
  have hnone : ¬ HasChain s.joins names := by
    rintro ⟨a, ha⟩
    rcases ha.eq_or with ⟨rfl, -⟩ | ⟨_, j, -, -, hj, -⟩
    · exact hn rfl
    · rw [fresh] at hj
      cases hj
  obtain ⟨name, rest, rfl⟩ := List.exists_cons_of_ne_nil hn
  have hnot : ¬ FindsChain s.joins (name :: rest) := fun ⟨a, ha⟩ => hnone ⟨a, ha.of_first⟩
  have hchild : child s.joins rootAlias name = none := by
    rw [fresh]
    rfl
  rw [Criteria.joins_withJoins, h.hasChain_iff ht, h.findsChain_iff ht]
  exact ⟨or_iff_right hnone, (or_iff_right hnot).trans (and_iff_right hchild)⟩

/-! ## The chains of sort keys -/

namespace Sql.Criteria

variable {c c' : Criteria} {key : SortKey} {a : Operand}

theorem sortOperand_eq_ok (ht : JoinTree c.joins) (h : sortOperand key.column c = .ok a c') :
    ∃ (walked left : List String) (last : Source), key.relations = walked ++ left ∧
      last ∈ sources c.joins ∧ Leads (First c.joins) walked last.tableAlias ∧
      (∀ name ∈ left.head?, child c.joins last.tableAlias name = none) ∧
      a = .column (tip last (chain .left c last left)).tableAlias key.leaf ∧
      c' = c.withJoins (chain .left c last left) := by
  obtain ⟨p, source, hp, hr, rfl⟩ := sortOperand_eq_ok_iff.1 h
  obtain ⟨rfl, -⟩ := readSortKey_eq_ok_iff.1 hp
  obtain ⟨walked, left, last, hnames, hlast, hlead, hfree, rfl, rfl⟩ :=
    reuseChain_eq_ok ht List.mem_cons_self .root hr
  exact ⟨walked, left, last, hnames, hlast, hlead, hfree, rfl, rfl⟩

/-- **What sort keys add**: chains of left joins, which later keys find. -/
theorem sortOperands_chains {keys : List SortKey} {order : List (SortKey × Operand)}
    (ht : JoinTree c.joins) (h : sortOperands keys c = .ok order c') :
    ∃ added, c' = c.withJoins added ∧ JoinTree c'.joins ∧ ∀ names,
      (HasChain c'.joins names ↔ HasChain c.joins names ∨ ∃ key ∈ keys, names <+: key.relations) ∧
      (FindsChain c'.joins names ↔
        FindsChain c.joins names ∨ ∃ key ∈ keys, names <+: key.relations) := by
  induction keys generalizing c order with
  | nil =>
    obtain ⟨-, rfl⟩ := pure_eq_ok_iff.1 h
    exact ⟨[], (withJoins_nil _).symm, ht, fun _ => by simp⟩
  | cons key keys ih =>
    obtain ⟨a, d, order', ha, hr, -⟩ := sortOperands_cons_eq_ok_iff.1 h
    obtain ⟨walked, left, last, hnames, hlast, hlead, hfree, -, rfl⟩ := sortOperand_eq_ok ht ha
    obtain ⟨added, rfl, htree, hiff⟩ := ih (tree_chain ht hlast) hr
    refine ⟨chain .left c last left ++ added, withJoins_withJoins _ _ _, htree, fun names => ?_⟩
    have hjoined : HasChain (c.withJoins (chain .left c last left)).joins names ↔
        HasChain c.joins names ∨ names <+: key.relations := by
      rw [hnames]
      exact hasChain_chain_iff ht hlast hlead.of_first
    have hfound : FindsChain (c.withJoins (chain .left c last left)).joins names ↔
        FindsChain c.joins names ∨ names <+: key.relations := by
      rw [hnames]
      exact findsChain_chain_iff ht hlast hlead hfree
    obtain ⟨hj, hf⟩ := hiff names
    rw [hj, hf, hjoined, hfound]
    simp only [List.mem_cons, or_and_right, exists_or, exists_eq_left, or_assoc, and_self]

/-! ## Reuse -/

/-- A sort key adds no join, and orders by a column of the last of a chain of `joins` with the names
of its relations. -/
def Reuses (joins : List Join) (c c' : Criteria) (key : SortKey) (a : Operand) : Prop :=
  c' = c ∧ ∃ b, Leads (· ∈ joins) key.relations b ∧ a = .column b key.leaf

/-- Only left joins are added, and only for chains that were not joined. -/
def AddsNewOnly (c c' : Criteria) : Prop :=
  ∃ added, c' = c.withJoins added ∧ ∀ j ∈ added, j.joinType = .left ∧
    ∀ names, Leads (· ∈ c'.joins) names j.tableAlias → ¬ HasChain c.joins names

/-- **A sort key reuses a chain of earlier joins if it finds it among them.** -/
theorem reuses_iff {js added : List Join} (hc : c.joins = js ++ added) (ht : JoinTree c.joins)
    (h : sortOperand key.column c = .ok a c') :
    Reuses js c c' key a ↔ FindsChain js key.relations := by
  obtain ⟨walked, left, last, hnames, hlast, hlead, hfree, rfl, rfl⟩ := sortOperand_eq_ok ht h
  unfold Reuses
  constructor
  · rintro ⟨hsame, b, hb, hcol⟩
    have hlength : left.length = 0 := by
      have hl := congrArg (fun c : Criteria => c.joins.length) hsame
      rw [joins_withJoins, List.length_append, length_chain] at hl
      omega
    obtain rfl := List.length_eq_zero_iff.1 hlength
    rw [List.append_nil] at hnames
    have hlast : last.tableAlias = b := (Operand.column.inj hcol).1
    -- One way leads to the table, so it is a way of first joins and of joins in `js`.
    rw [← hnames, hlast] at hlead
    have hjs : ∀ j ∈ js, j ∈ c.joins := fun j hj => hc ▸ List.mem_append_left added hj
    obtain ⟨-, hboth⟩ := hlead.inter hb ht.numbered (fun _ => First.mem) hjs
    refine ⟨b, hboth.mono fun j hj => ?_⟩
    have hfirst : First (js ++ added) j := hc ▸ hj.1
    exact hfirst.of_append hj.2
  · rintro ⟨b, hb⟩
    have hb' : Leads (First c.joins) (walked ++ left) b := by
      rw [hc, ← hnames]
      exact hb.first_append
    have hleft : left = [] := by
      by_contra hne
      obtain ⟨name, rest, rfl⟩ := List.exists_cons_of_ne_nil hne
      exact not_findsChain_of_child hlead (hfree name rfl) ⟨b, hb'⟩
    subst hleft
    rw [List.append_nil] at hb'
    refine ⟨withJoins_nil c, b, hb.of_first, ?_⟩
    rw [chain, tip, hlead.first_unique hb']

/-- **A sort key adds joins for new chains only if it finds all chains on its way.** -/
theorem addsNewOnly_iff (ht : JoinTree c.joins) (h : sortOperand key.column c = .ok a c') :
    AddsNewOnly c c' ↔
      ∀ names, names <+: key.relations → HasChain c.joins names → FindsChain c.joins names := by
  obtain ⟨walked, left, last, hnames, hlast, hlead, hfree, -, rfl⟩ := sortOperand_eq_ok ht h
  have hmem : ∀ j, j ∈ c.joins ++ chain .left c last left ↔
      (j ∈ c.joins ∨ j ∈ chain .left c last left) := fun _ => List.mem_append
  have hleads : ∀ {names b}, Leads (· ∈ (c.withJoins (chain .left c last left)).joins) names b ↔
      Leads (· ∈ c.joins) names b ∨ ∃ init, init ≠ [] ∧ init <+: left ∧ names = walked ++ init ∧
        b = (tip last (chain .left c last init)).tableAlias := fun {_ _} =>
    (Leads.congr hmem).trans (leads_chain_iff ht hlast (fun _ hj => hj) hlead.of_first)
  have hnot : ∀ init, init ≠ [] → init <+: left → ¬ FindsChain c.joins (walked ++ init) := by
    intro init hne hp
    obtain ⟨name, rest, rfl⟩ := List.exists_cons_of_ne_nil hne
    obtain ⟨others, rfl⟩ := hp
    exact not_findsChain_of_child hlead (hfree name rfl)
  rw [hnames]
  constructor
  · rintro ⟨added, hadded, hnew⟩ names hp hjoined
    obtain rfl : chain .left c last left = added :=
      List.append_cancel_left (congrArg Criteria.joins hadded)
    rcases prefix_append_iff.1 hp with hwalked | ⟨init, hne, hinit, rfl⟩
    · exact hlead.exists_of_isPrefix hwalked
    · obtain ⟨name, rest, rfl⟩ := List.exists_cons_of_ne_nil hne
      obtain ⟨j, hj, htip⟩ : ∃ j ∈ chain .left c last (name :: rest),
          tip last (chain .left c last (name :: rest)) = j.source := tip_cons_mem _ _ _
      have hjmem : j ∈ chain .left c last left := (chain_isPrefix hinit).subset hj
      have hway : (tip last (chain .left c last (name :: rest))).tableAlias = j.tableAlias :=
        congrArg Source.tableAlias htip
      exact absurd hjoined
        ((hnew j hjmem).2 _ (hleads.2 (.inr ⟨_, hne, hinit, rfl, hway.symm⟩)))
  · intro hfind
    refine ⟨_, rfl, fun j hj => ⟨joinType_of_mem_chain _ _ _ _ hj, fun names hway hjoined => ?_⟩⟩
    rcases hleads.1 hway with hold | ⟨init, hne, hp, rfl, -⟩
    · obtain ⟨source, hs, he⟩ := hold.mem_sources fun _ hj => hj
      have htree : JoinTree (c.joins ++ chain .left c last left) := tree_chain ht hlast
      refine htree.numbered.alias_notMem hs ?_
      rw [← he]
      exact List.mem_map_of_mem hj
    · exact hnot init hne hp
        (hfind _ ((List.prefix_append_right_inj walked).2 hp) hjoined)

end Sql.Criteria

/-- **When a sort key reuses the joins of a constraint.** For the page statement of a compiled
object and any of its sort keys that follows relations:

* the column of the key is in the order of the statement, after those of the keys before it;
* the constraint has a chain of joins for the key if a field that holds a value starts with the
  relations of the key;
* the key takes such a chain if it is the first field that starts like the key;
* the key adds joins for new chains only if what it shares with a field is the start of the first
  field that starts like it, or of an earlier key. -/
theorem finish_reuse_iff {F : Type} (c : Compiler) (t : FilterType F) (object : F)
    (page page' : PageRequest) {s c₁ : Criteria} {r : Compiled Constraint} {q : SelectQuery}
    (fresh : s.joins = []) (h : c.compile Criteria.backend t object page s = .ok r c₁)
    (hq : c₁.finish r.constraint page' = .ok q) {before after : List SortKey} {key : SortKey}
    (hkey : page'.sort = before ++ key :: after) (hn : key.relations ≠ []) :
    ∃ (c₂ c₃ c₄ : Criteria) (order order' : List (SortKey × Operand)) (a : Operand)
      (chains : List (List String)),
      chains = chainsOf (t.declarations.fields.filterMap (Field.held object)) ∧
      Criteria.sortOperands before c₁ = .ok order c₂ ∧
      Criteria.sortOperand key.column c₂ = .ok a c₃ ∧
      Criteria.sortOperands after c₃ = .ok order' c₄ ∧
      q = c₄.select c₁.joins r.constraint (order ++ (key, a) :: order') page' ∧
      q.Selects c₁.dialect (c₄.selection r.constraint) (c₁.selection r.constraint)
        (order ++ (key, a) :: order') page' ∧
      (HasChain c₁.joins key.relations ↔ ∃ chain ∈ chains, key.relations <+: chain) ∧
      (Criteria.Reuses c₁.joins c₂ c₃ key a ↔ key.relations <+: leader chains key.relations) ∧
      (Criteria.AddsNewOnly c₂ c₃ ↔ ∀ names, names ≠ [] → names <+: key.relations →
        (∃ chain ∈ chains, names <+: chain) →
          names <+: leader chains names ∨ ∃ k ∈ before, names <+: k.relations) := by
  obtain ⟨hk, -⟩ := compile_eq_ok_iff.1 h
  obtain ⟨fields, blocks, ps, hactive, hb, -, rfl⟩ := constraint_eq_ok_iff.1 hk
  obtain ⟨-, rfl⟩ := Declarations.active_eq_ok_iff.1 hactive
  obtain ⟨_, c₄, hsort, rfl⟩ := Criteria.finish_eq_ok_iff.1 hq
  obtain ⟨order, c₂, _, hbefore, hrest, rfl⟩ :=
    Criteria.sortOperands_append_eq_ok_iff.1 (hkey ▸ hsort)
  obtain ⟨a, c₃, order', ha, hafter, rfl⟩ := Criteria.sortOperands_cons_eq_ok_iff.1 hrest
  have ht : JoinTree (s.withJoins blocks.flatten).joins := hb.tree (fresh ▸ JoinTree.nil)
  have hfields := fun names (hn : names ≠ []) => hb.chains_of_fresh fresh hn
  obtain ⟨added, hadded, ht₂, hkeys⟩ := Criteria.sortOperands_chains ht hbefore
  have hc₂ : c₂.joins = (s.withJoins blocks.flatten).joins ++ added := by
    rw [hadded, Criteria.joins_withJoins]
  refine ⟨c₂, c₃, c₄, order, order', a, _, rfl, hbefore, ha, hafter, rfl,
    Criteria.selects_of_sortOperands hsort, (hfields _ hn).1, ?_, ?_⟩
  · rw [Criteria.reuses_iff hc₂ ht₂ ha]
    exact (hfields _ hn).2
  · rw [Criteria.addsNewOnly_iff ht₂ ha]
    constructor
    · intro hfind names hne hp hchain
      rw [← (hfields names hne).1] at hchain
      rw [← (hfields names hne).2, ← (hkeys names).2]
      exact hfind names hp ((hkeys names).1.2 (.inl hchain))
    · intro hstart names hp hjoined
      by_cases hne : names = []
      · rw [hne]
        exact ⟨rootAlias, .root⟩
      · refine (hkeys names).2.2 ?_
        rw [(hkeys names).1, (hfields names hne).1] at hjoined
        rw [(hfields names hne).2]
        exact hjoined.elim (hstart names hne hp) .inr

/-- The sort key of the example does not take the chain that the constraint has for it: the first
field that starts like it ends before. So the owner is joined once more for the order. -/
theorem finish_reuse_iff_sharing : ∃ r c₁ q a c₃,
    (Compiler.atEpoch .left).compile Criteria.backend sharing () byOwner people = .ok r c₁ ∧
    c₁.finish r.constraint byOwner = .ok q ∧
    q.sql = "SELECT t0.* FROM people t0 LEFT JOIN account j1 ON t0.account_id = j1.id " ++
      "LEFT JOIN account j2 ON t0.account_id = j2.id " ++
      "LEFT JOIN owner j3 ON j2.owner_id = j3.id LEFT JOIN owner j4 ON j1.owner_id = j4.id " ++
      "WHERE (LOWER(t0.name) LIKE $1 AND j1.status = $2 AND j3.city = $3) " ++
      "ORDER BY j4.name ASC LIMIT 5" ∧
    Criteria.sortOperand "account.owner.name" c₁ = .ok a c₃ ∧
    HasChain c₁.joins ["account", "owner"] ∧
    ¬ Criteria.Reuses c₁.joins c₁ c₃ ⟨"account.owner.name", .ascending, none⟩ a ∧
    ¬ Criteria.AddsNewOnly c₁ c₃ := by
  obtain ⟨r, c₁, h, hcheck⟩ := exists_of_passes
    ((Compiler.atEpoch .left).compile Criteria.backend sharing () byOwner people)
    (fun r c => passes (Criteria.sortOperand "account.owner.name" c) fun a d =>
      "SELECT t0.*" ++ (d.selection r.constraint).sql c.dialect ++ " ORDER BY " ++
        Text.joined ", " [SortKey.clause ⟨"account.owner.name", .ascending, none⟩
          (a.sql c.dialect)] ++ " " ++ byOwner.clause ==
        "SELECT t0.* FROM people t0 LEFT JOIN account j1 ON t0.account_id = j1.id " ++
          "LEFT JOIN account j2 ON t0.account_id = j2.id " ++
          "LEFT JOIN owner j3 ON j2.owner_id = j3.id LEFT JOIN owner j4 ON j1.owner_id = j4.id " ++
          "WHERE (LOWER(t0.name) LIKE $1 AND j1.status = $2 AND j3.city = $3) " ++
          "ORDER BY j4.name ASC LIMIT 5")
    (by decide +kernel)
  obtain ⟨a, c₃, hsort, htext⟩ := exists_of_passes _ _ hcheck
  rw [beq_iff_eq] at htext
  have hq : c₁.finish r.constraint byOwner = .ok _ := Criteria.finish_eq_ok_iff.2
    ⟨_, _, Criteria.sortOperands_cons_eq_ok_iff.2 ⟨a, c₃, [], hsort, rfl, rfl⟩, rfl⟩
  have hrelations : SortKey.relations ⟨"account.owner.name", .ascending, none⟩ =
      ["account", "owner"] := by decide +kernel
  have hchains : chainsOf (sharing.declarations.fields.filterMap (Field.held ())) =
      [[], ["account"], ["account", "owner"]] := by decide +kernel
  obtain ⟨c₂, _, _, order, order', _, chains, rfl, hbefore, ha, hafter, -, hselects, hjoined,
      hreuses, hadds⟩ :=
    finish_reuse_iff _ _ _ _ _ rfl h hq (show byOwner.sort = [] ++ _ :: [] from rfl)
      (by rw [hrelations]; decide)
  obtain ⟨rfl, rfl⟩ := pure_eq_ok_iff.1 hbefore
  obtain ⟨rfl, rfl⟩ := pure_eq_ok_iff.1 hafter
  rw [hsort, EStateM.Result.ok.injEq] at ha
  obtain ⟨rfl, rfl⟩ := ha
  rw [hrelations, hchains] at hjoined hreuses hadds
  have hsql := hselects.sql_ordered (List.cons_ne_nil _ _)
  rw [List.nil_append, List.map_singleton, htext] at hsql
  refine ⟨r, c₂, _, a, c₃, h, hq, hsql, hsort, hjoined.2 (by decide), fun hr => ?_,
    fun hnew => ?_⟩
  · exact absurd (hreuses.1 hr) (by decide)
  · have hstart := hadds.1 hnew ["account", "owner"] (by decide) (List.prefix_refl _) (by decide)
    exact absurd hstart (by decide)

end FilterQuery

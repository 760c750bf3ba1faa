import FilterQuery.Proofs.Sql.Joins
import FilterQuery.Sql.Select

/-!
# The joins of sort keys

A sort key takes a join that is there, or adds a left join.

* `child`: the join that a sort key takes;
* `Criteria.readSortKey_eq_ok_iff`: which sort keys are read;
* `Criteria.reuseJoin_eq_ok_iff`, `Criteria.reuseChain_cons_eq_ok_iff`,
  `Criteria.sortOperand_eq_ok_iff`, `Criteria.sortOperands_append_eq_ok_iff`,
  `Criteria.finish_eq_ok_iff`: runs taken apart;
* `Hung`: left joins put one by one to tables that are there; **`Criteria.hung_of_sortOperands`**:
  sort keys add nothing else.
-/

namespace FilterQuery.Sql

/-! ## First joins -/

/-- The first join of a relation of a table. -/
def child (js : List Join) (a name : String) : Option Join :=
  js.find? fun j => j.parentAlias == a && j.name == name

section

variable {js : List Join} {j : Join} {a name : String}

theorem child_eq_some (h : child js a name = some j) :
    j ∈ js ∧ j.parentAlias = a ∧ j.name = name := by
  have hp := List.find?_some h
  rw [Bool.and_eq_true, beq_iff_eq, beq_iff_eq] at hp
  exact ⟨List.mem_of_find?_eq_some h, hp⟩

theorem child_eq_none_iff : child js a name = none ↔
    ∀ j ∈ js, j.parentAlias = a → j.name ≠ name := by
  simp [child, List.find?_eq_none]

end

namespace Criteria

variable {c c' : Criteria} {parent source : Source} {name : String} {names : List String}

/-! ## Runs taken apart -/

theorem reuseJoin_eq_ok_iff : reuseJoin parent name c = .ok source c' ↔
    (∃ j, child c.joins parent.tableAlias name = some j ∧ source = j.source ∧ c' = c) ∨
      child c.joins parent.tableAlias name = none ∧ name ≠ "" ∧
        source = (c.nextJoin parent name .left).source ∧
        c' = c.withJoins [c.nextJoin parent name .left] := by
  have hfind : c.findJoin parent name = child c.joins parent.tableAlias name := rfl
  unfold reuseJoin
  rw [hfind]
  cases child c.joins parent.tableAlias name with
  | some j => simp [eq_comm]
  | none =>
    dsimp only
    rw [addJoin_eq_ok_iff]
    simp

theorem reuseChain_cons_eq_ok_iff : reuseChain (name :: names) parent c = .ok source c' ↔
    ∃ next d, reuseJoin parent name c = .ok next d ∧ reuseChain names next d = .ok source c' := by
  rw [reuseChain, bind_eq_ok_iff]

theorem readSortKey_eq_ok_iff {depth : Nat} {column : String} {p : DottedPath} :
    readSortKey depth column = .ok p ↔
      p = DottedPath.split column ∧ (∀ s ∈ p.segments, s ≠ "") ∧ p.relations.length ≤ depth := by
  have hany : (DottedPath.split column).segments.any String.isEmpty = true ↔
      ¬ ∀ s ∈ (DottedPath.split column).segments, s ≠ "" := by
    simp [String.isEmpty_iff]
  unfold readSortKey
  dsimp only
  by_cases he : (DottedPath.split column).segments.any String.isEmpty = true
  · rw [if_pos he]
    constructor
    · intro h
      cases h
    · rintro ⟨rfl, hne, -⟩
      exact absurd hne (hany.1 he)
  · rw [if_neg he]
    by_cases hdepth : depth < (DottedPath.split column).relations.length
    · rw [if_pos hdepth]
      constructor
      · intro h
        cases h
      · rintro ⟨rfl, -, hle⟩
        omega
    · rw [if_neg hdepth, Except.ok.injEq]
      constructor
      · rintro rfl
        exact ⟨rfl, Classical.not_not.1 (mt hany.2 he), by omega⟩
      · rintro ⟨rfl, -⟩
        rfl

theorem sortOperand_eq_ok_iff {column : String} {a : Operand} :
    sortOperand column c = .ok a c' ↔ ∃ p source, readSortKey c.maxDepth column = .ok p ∧
      reuseChain p.relations .root c = .ok source c' ∧ a = .column source.tableAlias p.leaf := by
  unfold sortOperand
  cases readSortKey c.maxDepth column with
  | error e => simp
  | ok p =>
    dsimp only
    cases hr : reuseChain p.relations .root c with
    | error e d => simp [hr]
    | ok source d =>
      simp only [EStateM.Result.ok.injEq, Except.ok.injEq]
      constructor
      · rintro ⟨rfl, rfl⟩
        exact ⟨p, source, rfl, hr, rfl⟩
      · rintro ⟨_, source', rfl, hr', rfl⟩
        rw [hr, EStateM.Result.ok.injEq] at hr'
        rw [hr'.1]
        exact ⟨rfl, hr'.2⟩

theorem sortOperands_cons_eq_ok_iff {key : SortKey} {keys : List SortKey}
    {order : List (SortKey × Operand)} : sortOperands (key :: keys) c = .ok order c' ↔
      ∃ a d order', sortOperand key.column c = .ok a d ∧ sortOperands keys d = .ok order' c' ∧
        order = (key, a) :: order' := by
  rw [sortOperands, bind_eq_ok_iff]
  simp only [bind_eq_ok_iff, pure_eq_ok_iff]
  constructor
  · rintro ⟨a, d, ha, order', _, hr, rfl, rfl⟩
    exact ⟨a, d, order', ha, hr, rfl⟩
  · rintro ⟨a, d, order', ha, hr, rfl⟩
    exact ⟨a, d, ha, order', c', hr, rfl, rfl⟩

theorem sortOperands_append_eq_ok_iff {keys more : List SortKey}
    {order : List (SortKey × Operand)} : sortOperands (keys ++ more) c = .ok order c' ↔
      ∃ order₁ d order₂, sortOperands keys c = .ok order₁ d ∧
        sortOperands more d = .ok order₂ c' ∧ order = order₁ ++ order₂ := by
  induction keys generalizing c order with
  | nil =>
    rw [List.nil_append, sortOperands]
    simp only [pure_eq_ok_iff]
    constructor
    · intro h
      exact ⟨[], c, order, ⟨rfl, rfl⟩, h, rfl⟩
    · rintro ⟨_, _, order₂, ⟨rfl, rfl⟩, h, rfl⟩
      exact h
  | cons key keys ih =>
    rw [List.cons_append]
    simp only [sortOperands_cons_eq_ok_iff, ih]
    constructor
    · rintro ⟨a, d, _, ha, ⟨order₁, e, order₂, h₁, h₂, rfl⟩, rfl⟩
      exact ⟨_, e, order₂, ⟨a, d, order₁, ha, h₁, rfl⟩, h₂, rfl⟩
    · rintro ⟨_, e, order₂, ⟨a, d, order₁, ha, h₁, rfl⟩, h₂, rfl⟩
      exact ⟨a, d, _, ha, ⟨order₁, e, order₂, h₁, h₂, rfl⟩, rfl⟩

theorem finish_eq_ok_iff {k : Constraint} {page : PageRequest} {q : SelectQuery} :
    c.finish k page = .ok q ↔ ∃ order c', sortOperands page.sort c = .ok order c' ∧
      q = c'.select c.joins k order page := by
  unfold finish
  cases sortOperands page.sort c with
  | error e d => simp
  | ok order d => simp [eq_comm]

end Criteria

/-! ## What sort keys add -/

/-- Left joins put to others one by one: each has the next alias, and starts from the root or from
an earlier join. -/
inductive Hung : List Join → List Join → Prop
  | nil (js : List Join) : Hung js []
  | cons {js ks : List Join} {j : Join} {parent : Source} (mem : parent ∈ sources js)
      (type_eq : j.joinType = .left) (parent_eq : j.parentAlias = parent.tableAlias)
      (alias_eq : j.tableAlias = joinAlias (js.length + 1)) (tail : Hung (js ++ [j]) ks) :
      Hung js (j :: ks)

namespace Hung

variable {js ks ls : List Join}

theorem append (h : Hung js ks) (h' : Hung (js ++ ks) ls) : Hung js (ks ++ ls) := by
  induction h with
  | nil => rwa [List.append_nil] at h'
  | cons mem type_eq parent_eq alias_eq _ ih =>
    rw [List.append_cons] at h'
    exact .cons mem type_eq parent_eq alias_eq (ih h')

theorem numbered (h : Hung js ks) (hjs : Numbered js) : Numbered (js ++ ks) := by
  induction h with
  | nil => rwa [List.append_nil]
  | cons _ _ _ alias_eq _ ih =>
    rw [List.append_cons]
    exact ih (hjs.snoc alias_eq)

end Hung

namespace Criteria

variable {c c' : Criteria} {parent source : Source}

theorem hung_of_reuseJoin {name : String} (mem : parent ∈ sources c.joins)
    (h : reuseJoin parent name c = .ok source c') :
    ∃ added, c' = c.withJoins added ∧ Hung c.joins added ∧ source ∈ sources c'.joins := by
  rcases reuseJoin_eq_ok_iff.1 h with ⟨j, hj, rfl, rfl⟩ | ⟨-, -, rfl, rfl⟩
  · exact ⟨[], (withJoins_nil _).symm, .nil _, source_mem (child_eq_some hj).1⟩
  · refine ⟨_, rfl, .cons mem rfl rfl rfl (.nil _), source_mem ?_⟩
    exact List.mem_append_right _ (List.mem_singleton_self _)

theorem hung_of_reuseChain {names : List String} (mem : parent ∈ sources c.joins)
    (h : reuseChain names parent c = .ok source c') :
    ∃ added, c' = c.withJoins added ∧ Hung c.joins added := by
  induction names generalizing c parent with
  | nil =>
    obtain ⟨rfl, rfl⟩ := pure_eq_ok_iff.1 h
    exact ⟨[], (withJoins_nil _).symm, .nil _⟩
  | cons name names ih =>
    obtain ⟨next, d, hj, hr⟩ := reuseChain_cons_eq_ok_iff.1 h
    obtain ⟨ks, rfl, hks, hnext⟩ := hung_of_reuseJoin mem hj
    obtain ⟨ls, rfl, hls⟩ := ih hnext hr
    exact ⟨ks ++ ls, withJoins_withJoins _ _ _, hks.append hls⟩

/-- **Sort keys only add left joins, one by one.** -/
theorem hung_of_sortOperands {keys : List SortKey} {order : List (SortKey × Operand)}
    (h : sortOperands keys c = .ok order c') :
    ∃ added, c' = c.withJoins added ∧ Hung c.joins added := by
  induction keys generalizing c order with
  | nil =>
    obtain ⟨-, rfl⟩ := pure_eq_ok_iff.1 h
    exact ⟨[], (withJoins_nil _).symm, .nil _⟩
  | cons key keys ih =>
    obtain ⟨a, d, order', ha, hr, -⟩ := sortOperands_cons_eq_ok_iff.1 h
    obtain ⟨p, source, -, hp, -⟩ := sortOperand_eq_ok_iff.1 ha
    obtain ⟨ks, rfl, hks⟩ := hung_of_reuseChain List.mem_cons_self hp
    obtain ⟨ls, rfl, hls⟩ := ih hr
    exact ⟨ks ++ ls, withJoins_withJoins _ _ _, hks.append hls⟩

end Criteria

end FilterQuery.Sql

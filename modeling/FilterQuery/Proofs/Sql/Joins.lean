import FilterQuery.Sql.Criteria
import Mathlib.Data.List.Nodup
import Mathlib.Logic.Relation

/-!
# The joins of criteria

Joins are only appended, and their aliases count up.

* `bind_eq_ok_iff`: a run of two calls, one after the other; `passes`: a check of a run;
* `Criteria.withJoins`: criteria with further joins; `addJoin_eq_ok_iff`, `columnOf_eq_ok_iff`;
* `Numbered`: joins whose aliases count up, with **`Numbered.nodup_alias`** (no two joins have one
  alias) and `Numbered.find?_alias` (an alias leads back to its join);
* `Criteria.Step`, `Criteria.Steps`, `Criteria.Reachable`: how criteria come about, with
  **`Criteria.Reachable.numbered`**.
-/

namespace FilterQuery

section

variable {ε σ α β : Type} {x : EStateM ε σ α} {f : α → EStateM ε σ β} {s s' : σ}

theorem bind_eq_ok_iff {b : β} :
    (x >>= f) s = .ok b s' ↔ ∃ a t, x s = .ok a t ∧ f a t = .ok b s' := by
  change EStateM.bind x f s = .ok b s' ↔ _
  unfold EStateM.bind
  cases x s with
  | ok a t => simp
  | error e t => simp

theorem pure_eq_ok_iff {a b : α} :
    (pure a : EStateM ε σ α) s = .ok b s' ↔ b = a ∧ s' = s := by
  change EStateM.Result.ok a s = .ok b s' ↔ _
  rw [EStateM.Result.ok.injEq, eq_comm, @eq_comm _ s]

/-- A run succeeds with what passes a check. -/
def passes (r : EStateM.Result ε σ α) (check : α → σ → Bool) : Bool :=
  match r with
  | .ok a s => check a s
  | .error _ _ => false

theorem exists_of_passes (r : EStateM.Result ε σ α) (check : α → σ → Bool)
    (h : passes r check = true) : ∃ a s, r = .ok a s ∧ check a s = true := by
  cases r with
  | ok a s => exact ⟨a, s, rfl, h⟩
  | error e s => cases h

end

end FilterQuery

namespace FilterQuery.Sql

/-! ## Aliases -/

theorem joinAlias_injective : Function.Injective joinAlias := by
  intro m n h
  have h' : toString m = toString n := (String.append_right_inj "j").1 h
  have h'' : Nat.toDigits 10 m = Nat.toDigits 10 n := String.ofList_injective h'
  rw [← Nat.ofDigitChars_ten_toDigits (n := m), h'', Nat.ofDigitChars_ten_toDigits]

theorem joinAlias_ne_rootAlias (n : Nat) : joinAlias n ≠ rootAlias := by
  intro h
  have h' := congrArg String.toList h
  rw [joinAlias, String.toList_append] at h'
  exact absurd (List.cons.inj h').1 (by decide)

/-! ## Further joins -/

namespace Criteria

/-- The criteria with further joins. -/
def withJoins (c : Criteria) (js : List Join) : Criteria := { c with joins := c.joins ++ js }

section

variable (c : Criteria) (js ks : List Join)

@[simp] theorem joins_withJoins : (c.withJoins js).joins = c.joins ++ js := rfl
@[simp] theorem table_withJoins : (c.withJoins js).table = c.table := rfl
@[simp] theorem dialect_withJoins : (c.withJoins js).dialect = c.dialect := rfl
@[simp] theorem maxDepth_withJoins : (c.withJoins js).maxDepth = c.maxDepth := rfl
@[simp] theorem collections_withJoins : (c.withJoins js).collections = c.collections := rfl

@[simp] theorem relationAt_withJoins (path name : String) :
    (c.withJoins js).relationAt path name = c.relationAt path name := rfl

@[simp] theorem withJoins_nil : c.withJoins [] = c := by
  unfold withJoins
  rw [List.append_nil]

@[simp] theorem withJoins_withJoins : (c.withJoins js).withJoins ks = c.withJoins (js ++ ks) := by
  unfold withJoins
  rw [List.append_assoc]

end

variable {c c' : Criteria} {parent source : Source} {name : String} {type : JoinType}

theorem addJoin_eq_ok_iff : addJoin parent name type c = .ok source c' ↔
    name ≠ "" ∧ source = (c.nextJoin parent name type).source ∧
      c' = c.withJoins [c.nextJoin parent name type] := by
  unfold addJoin
  by_cases h : name.isEmpty = true
  · simp [String.isEmpty_iff.1 h]
  · rw [if_neg h, EStateM.Result.ok.injEq, eq_comm, @eq_comm _ _ c']
    exact ⟨fun e => ⟨fun hn => h (String.isEmpty_iff.2 hn), e⟩, fun e => e.2⟩

theorem columnOf_eq_ok_iff {a : Operand} : columnOf source name c = .ok a c' ↔
    name ≠ "" ∧ a = .column source.tableAlias name ∧ c' = c := by
  unfold columnOf
  by_cases h : name.isEmpty = true
  · simp [String.isEmpty_iff.1 h]
  · rw [if_neg h, EStateM.Result.ok.injEq, eq_comm, @eq_comm _ _ c']
    exact ⟨fun e => ⟨fun hn => h (String.isEmpty_iff.2 hn), e⟩, fun e => e.2⟩

end Criteria

/-! ## Numbered joins -/

/-- The root and the joined tables. -/
def sources (js : List Join) : List Source := .root :: js.map Join.source

/-- The aliases of joins count up from one. -/
def Numbered (js : List Join) : Prop :=
  js.map Join.tableAlias = (List.range' 1 js.length).map joinAlias

section

variable {js ks : List Join} {j : Join}

theorem source_mem (h : j ∈ js) : j.source ∈ sources js :=
  List.mem_cons_of_mem _ (List.mem_map_of_mem h)

theorem sources_append_left {source : Source} (h : source ∈ sources js) :
    source ∈ sources (js ++ ks) := by
  rw [sources, List.map_append, ← List.cons_append]
  exact List.mem_append_left _ h

theorem mem_sources_snoc {source : Source} (h : source ∈ sources (js ++ [j])) :
    source ∈ sources js ∨ source = j.source := by
  rw [sources, List.map_append, ← List.cons_append, List.mem_append, List.map_singleton,
    List.mem_singleton] at h
  exact h

end

namespace Numbered

variable {js ks : List Join}

theorem nil : Numbered [] := rfl

theorem append (h : Numbered js)
    (hk : ks.map Join.tableAlias = (List.range' (js.length + 1) ks.length).map joinAlias) :
    Numbered (js ++ ks) := by
  have hr : List.range' 1 (js ++ ks).length =
      List.range' 1 js.length ++ List.range' (js.length + 1) ks.length := by
    rw [List.length_append, ← List.range'_append_1, Nat.add_comm 1]
  rw [Numbered, hr, List.map_append, List.map_append, h, hk]

theorem snoc {j : Join} (h : Numbered js) (hj : j.tableAlias = joinAlias (js.length + 1)) :
    Numbered (js ++ [j]) := by
  refine h.append ?_
  rw [List.map_singleton, hj]
  rfl

/-- **No two joins have one alias.** -/
theorem nodup_alias (h : Numbered js) : (js.map Join.tableAlias).Nodup := by
  rw [h]
  exact (List.nodup_range' 1 (by decide)).map joinAlias_injective

theorem rootAlias_notMem (h : Numbered js) : rootAlias ∉ js.map Join.tableAlias := by
  intro ha
  rw [h, List.mem_map] at ha
  obtain ⟨n, -, e⟩ := ha
  exact joinAlias_ne_rootAlias n e

theorem alias_eq (h : Numbered js) {source : Source} (hs : source ∈ sources js) :
    source.tableAlias = rootAlias ∨
      ∃ n, 0 < n ∧ n ≤ js.length ∧ source.tableAlias = joinAlias n := by
  rcases List.mem_cons.1 hs with rfl | hs
  · exact .inl rfl
  · obtain ⟨j, hj, rfl⟩ := List.mem_map.1 hs
    have hmem : j.tableAlias ∈ js.map Join.tableAlias := List.mem_map_of_mem hj
    rw [h, List.mem_map] at hmem
    obtain ⟨n, hn, he⟩ := hmem
    rw [List.mem_range'_1] at hn
    exact .inr ⟨n, by omega, by omega, he.symm⟩

theorem alias_notMem (h : Numbered (js ++ ks)) {source : Source} (hs : source ∈ sources js) :
    source.tableAlias ∉ ks.map Join.tableAlias := by
  rcases List.mem_cons.1 hs with rfl | hs
  · intro ha
    refine h.rootAlias_notMem ?_
    rw [List.map_append]
    exact List.mem_append_right _ ha
  · obtain ⟨j, hj, rfl⟩ := List.mem_map.1 hs
    have hn := h.nodup_alias
    rw [List.map_append, List.nodup_append] at hn
    exact fun ha => hn.2.2 _ (List.mem_map_of_mem hj) _ ha rfl

theorem find?_alias (h : Numbered js) {j : Join} (hj : j ∈ js) :
    js.find? (fun k => k.tableAlias == j.tableAlias) = some j := by
  have hn := h.nodup_alias
  clear h
  induction js with
  | nil => cases hj
  | cons k ks ih =>
    rw [List.map_cons, List.nodup_cons] at hn
    rcases List.mem_cons.1 hj with rfl | hj
    · exact List.find?_cons_of_pos (by simp)
    · rw [List.find?_cons_of_neg]
      · exact ih hj hn.2
      · intro e
        exact hn.1 (List.mem_map.2 ⟨j, hj, (beq_iff_eq.1 e).symm⟩)

end Numbered

/-! ## How criteria come about -/

namespace Criteria

/-- One change of criteria: a setting, or a join. -/
inductive Step : Criteria → Criteria → Prop
  | dialect (c : Criteria) (d : Dialect) : Step c (c.withDialect d)
  | maxDepth (c : Criteria) (depth : Nat) : Step c (c.withMaxDepth depth)
  | relation (c : Criteria) (path : String) (r : Relation) : Step c (c.withRelation path r)
  | collection (c : Criteria) (path : String) : Step c (c.withCollection path)
  | join {c c' : Criteria} {parent source : Source} {name : String} {type : JoinType}
      (h : addJoin parent name type c = .ok source c') : Step c c'

/-- Any number of changes. -/
abbrev Steps : Criteria → Criteria → Prop := Relation.ReflTransGen Step

/-- Criteria that came about by changes from criteria without joins. -/
def Reachable (c : Criteria) : Prop := ∃ c₀ : Criteria, c₀.joins = [] ∧ Steps c₀ c

variable {c c' : Criteria}

theorem Step.numbered (h : Step c c') (hc : Numbered c.joins) : Numbered c'.joins := by
  cases h with
  | dialect | maxDepth | relation | collection => exact hc
  | join h =>
    obtain ⟨-, -, rfl⟩ := addJoin_eq_ok_iff.1 h
    exact hc.append rfl

theorem Step.prefix_joins (h : Step c c') : c.joins <+: c'.joins := by
  cases h with
  | dialect | maxDepth | relation | collection => exact List.prefix_refl _
  | join h =>
    obtain ⟨-, -, rfl⟩ := addJoin_eq_ok_iff.1 h
    exact List.prefix_append _ _

theorem Steps.numbered (h : Steps c c') (hc : Numbered c.joins) : Numbered c'.joins := by
  induction h with
  | refl => exact hc
  | tail _ step ih => exact step.numbered ih

theorem Steps.prefix_joins (h : Steps c c') : c.joins <+: c'.joins := by
  induction h with
  | refl => exact List.prefix_refl _
  | tail _ step ih => exact ih.trans step.prefix_joins

theorem Reachable.steps (h : Reachable c) (hs : Steps c c') : Reachable c' := by
  obtain ⟨c₀, h₀, hsteps⟩ := h
  exact ⟨c₀, h₀, hsteps.trans hs⟩

/-- **The joins of reachable criteria are numbered.** -/
theorem Reachable.numbered (h : Reachable c) : Numbered c.joins := by
  obtain ⟨c₀, h₀, hs⟩ := h
  refine hs.numbered ?_
  rw [h₀]
  exact .nil

end Criteria

end FilterQuery.Sql

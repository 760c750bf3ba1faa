import FilterQuery.Proofs.Rows.Sorting
import Mathlib.Algebra.BigOperators.Group.List.Basic
import Mathlib.Data.List.Count

/-!
# How often a row is selected

A row of the root table is selected as often as the joins put rows beside it for which the condition
holds. Each field of a filter has joins of its own, so that the numbers multiply.

* **`perm_flatMap_replicate_iff`**: repeated items are the same items if each is repeated once;
* **`Database.map_tip_joined`**: what linked joins put beside a row, with repetitions;
* `Compiler.weight`: how often a field selects a row; **`Built.countP_joined`**: how often all
  fields do;
* **`Selection.rows_eq`**, **`Built.rows_eq`**: the rows of a selection and of a compilation, as
  often as they are selected.
-/

namespace FilterQuery

open Sql

/-! ## Repeated items -/

section

variable {α β : Type}

theorem countP_flatMap_eq_mul {l : List α} {f : α → List β} {p : α → Bool} {q : β → Bool} {n : Nat}
    (h : ∀ a ∈ l, (f a).countP q = if p a then n else 0) :
    (l.flatMap f).countP q = l.countP p * n := by
  induction l with
  | nil => simp
  | cons a l ih =>
    rw [List.forall_mem_cons] at h
    rw [List.flatMap_cons, List.countP_append, ih h.2, h.1, List.countP_cons]
    split <;> grind

theorem map_filter_eq_replicate {l : List β} {p : β → Bool} {g : β → α} {a : α}
    (h : ∀ b ∈ l, g b = a) : (l.filter p).map g = List.replicate (l.countP p) a := by
  rw [List.countP_eq_length_filter]
  exact List.map_eq_replicate_iff.2 fun b hb => h b (List.mem_filter.1 hb).1

theorem count_flatMap_replicate [DecidableEq α] (l : List α) (k : α → Nat) (a : α) :
    (l.flatMap fun b => List.replicate (k b) b).count a = l.count a * k a := by
  refine countP_flatMap_eq_mul fun b _ => ?_
  change (List.replicate (k b) b).count a = _
  rw [List.count_replicate]
  by_cases hb : b = a
  · rw [hb]
  · rw [if_neg (by simpa using hb), if_neg (by simpa using hb)]

/-- **Repeated items are the same items if each of them is repeated once.** -/
theorem perm_flatMap_replicate_iff {l : List α} {k : α → Nat} :
    (l.flatMap fun a => List.replicate (k a) a).Perm l ↔ ∀ a ∈ l, k a = 1 := by
  classical
  constructor
  · intro h a ha
    have hpos : 0 < l.count a := List.count_pos_iff.2 ha
    have heq : l.count a * k a = l.count a * 1 := by
      rw [← count_flatMap_replicate, h.count_eq a, Nat.mul_one]
    exact Nat.eq_of_mul_eq_mul_left hpos heq
  · intro h
    have hl : (l.flatMap fun a => List.replicate (k a) a) = l.flatMap fun a => [a] :=
      List.flatMap_congr fun a ha => by rw [h a ha, List.replicate_one]
    rw [hl, List.flatMap_singleton']

end

variable {V : Type} {db : Database V}

/-! ## Rows beside a row -/

/-- **What linked joins put beside a row**, as often as they do. -/
theorem Sql.Database.map_tip_joined {source : Source} {js : List Join} {e : Env V}
    (h : Linked source js) : (db.joined [e] js).map (fun e' => e' (tip source js).tableAlias) =
      db.ends (js.map Join.hop) (e source.tableAlias) := by
  induction js generalizing source e with
  | nil => rfl
  | cons j js ih =>
    obtain ⟨hp, hjs⟩ := h
    have hjoin : db.join [e] j =
        (db.partners j.joinType j.relation (e source.tableAlias)).map
          (Function.update e j.tableAlias) := by
      rw [Database.join, List.flatMap_singleton, hp]
    rw [Database.joined_cons, hjoin, Database.joined_eq_flatMap, List.map_flatMap,
      List.flatMap_map, List.map_cons, Join.hop, Database.ends]
    refine List.flatMap_congr fun r _ => ?_
    rw [tip, ih hjs, show j.source.tableAlias = j.tableAlias from rfl, Function.update_self]

instance {g : Engine V} {op : Operation} {leaf : String} {clause : Clause} {row : Row V} :
    Decidable (clause.Holds g op leaf row) := inferInstanceAs (Decidable (_ = Truth.holds))

/-- How often a field selects a row of the root table: the number of rows at the end of its
relations for which its clause holds. -/
def Compiler.weight (c : Compiler) (s : Criteria) (db : Database V) (d : Declaration)
    (input : Input) (r : Row V) : Nat :=
  match d.operation.clause c.context input with
  | .ok clause => (db.ends ((c.block s d).map Join.hop) r).countP fun row =>
      decide (clause.Holds db.engine d.operation d.leaf row)
  | .error _ => 0

variable {c : Compiler} {s : Criteria}

theorem Compiler.weight_withJoins {d : Declaration} {input : Input} (js : List Join) :
    c.weight (s.withJoins js) db d input = c.weight s db d input := by
  funext r
  unfold Compiler.weight Compiler.block
  rw [Criteria.map_hop_chain]

theorem countP_forall_cons {es : List (Env V)} {p : Constraint} {ps : List Constraint} {b : Bool}
    (h : ∀ e ∈ es, decide (p.truth (db.engine.judge e) = .holds) = b) :
    es.countP (fun e => decide (∀ q ∈ p :: ps, q.truth (db.engine.judge e) = .holds)) =
      if b then es.countP (fun e => decide (∀ q ∈ ps, q.truth (db.engine.judge e) = .holds))
      else 0 := by
  cases b with
  | false =>
    rw [if_neg Bool.false_ne_true, List.countP_eq_zero]
    intro e he
    simp [of_decide_eq_false (h e he)]
  | true =>
    rw [if_pos rfl]
    refine List.countP_congr fun e he => ?_
    simp [of_decide_eq_true (h e he)]

/-- **How often all fields select a row.** -/
theorem Built.countP_joined {fields : List (Declaration × Input)} {blocks : List (List Join)}
    {ps : List Constraint} (h : Built c s fields blocks ps) (hs : Numbered s.joins) (e : Env V) :
    (db.joined [e] blocks.flatten).countP
        (fun e' => decide (∀ p ∈ ps, p.truth (db.engine.judge e') = .holds)) =
      (fields.map fun f => c.weight s db f.1 f.2 (e rootAlias)).prod := by
  induction h generalizing e with
  | nil => simp
  | @cons s d input p rest blocks ps ha build tail ih =>
    obtain ⟨-, clause, hc, rfl⟩ := (Compiler.build_located_eq_ok_iff hs ha).1 build
    have hg : Numbered (s.joins ++ c.block s d ++ blocks.flatten) :=
      tail.numbered (Compiler.numbered_located hs)
    have hlinked : Linked .root (c.block s d) := Criteria.linked_chain _ _ _ _
    have hblock : Source.root.tableAlias ∉ (c.block s d).map Join.tableAlias :=
      (Compiler.numbered_located hs).alias_notMem List.mem_cons_self
    -- The tables of later blocks have other aliases than the one that the predicate looks at.
    have htip : (tip .root (c.block s d)).tableAlias ∉ blocks.flatten.map Join.tableAlias :=
      hg.alias_notMem (Criteria.tip_chain_mem_sources List.mem_cons_self)
    let holds : Row V → Bool := fun row =>
      decide (clause.Holds db.engine d.operation d.leaf row)
    have hfirst : (db.joined [e] (c.block s d)).countP
        (fun e₁ => holds (e₁ (tip .root (c.block s d)).tableAlias)) =
          c.weight s db d input (e rootAlias) := by
      rw [Compiler.weight, hc]
      change _ = (db.ends _ (e Source.root.tableAlias)).countP holds
      rw [← Database.map_tip_joined hlinked, List.countP_map]
      rfl
    rw [List.flatten_cons, Database.joined_append, Database.joined_eq_flatMap, List.map_cons,
      List.prod_cons, ← hfirst]
    refine countP_flatMap_eq_mul fun e₁ he₁ => ?_
    have hroot : e₁ rootAlias = e rootAlias := Database.joined_apply_of_notMem he₁ hblock
    rw [countP_forall_cons (b := holds (e₁ (tip .root (c.block s d)).tableAlias)),
      ih (Compiler.numbered_located hs) e₁, hroot]
    · simp only [Compiler.located, Compiler.weight_withJoins]
    · intro e' he'
      rw [Compiler.column, decide_eq_decide, Clause.truth_constraint_eq_holds_iff,
        Database.joined_apply_of_notMem he' htip]

/-! ## Selected rows -/

/-- **The rows of a selection**: each row of the root table as often as the condition holds for what
the joins put beside it. -/
theorem Sql.Selection.rows_eq {q : Selection} (h : rootAlias ∉ q.joins.map Join.tableAlias) :
    q.rows db = (db.rows q.table).flatMap fun r =>
      List.replicate ((db.joined [Env.root r] q.joins).countP (q.admits db)) r := by
  rw [Selection.rows, Selection.envs, Database.joined_eq_flatMap, List.flatMap_map,
    List.filter_flatMap, List.map_flatMap]
  refine List.flatMap_congr fun r _ => map_filter_eq_replicate fun e he => ?_
  rw [Database.joined_apply_of_notMem he h, Env.root_rootAlias]

/-- How often compiled fields select a row: once for each way to put rows beside it by the joins
that were there, times the numbers of the fields. -/
def Compiler.multiplicity (c : Compiler) (s : Criteria) (db : Database V)
    (fields : List (Declaration × Input)) (r : Row V) : Nat :=
  (db.joined [Env.root r] s.joins).length * (fields.map fun f => c.weight s db f.1 f.2 r).prod

/-- **The rows of a compilation**, as often as they are selected. -/
theorem Built.rows_eq {fields : List (Declaration × Input)} {blocks : List (List Join)}
    {ps : List Constraint} (h : Built c s fields blocks ps) (hs : Numbered s.joins) :
    ((s.withJoins blocks.flatten).selection (.and ps)).rows db =
      (db.rows s.table).flatMap fun r => List.replicate (c.multiplicity s db fields r) r := by
  have hroot : rootAlias ∉ (s.joins ++ blocks.flatten).map Join.tableAlias :=
    (h.numbered hs).rootAlias_notMem
  have hadmits : ((s.withJoins blocks.flatten).selection (.and ps)).admits db =
      fun e => decide (∀ p ∈ ps, p.truth (db.engine.judge e) = .holds) := by
    funext e
    rw [Selection.admits, decide_eq_decide]
    exact Constraint.truth_and_eq_holds_iff
  rw [Selection.rows_eq hroot, hadmits]
  refine List.flatMap_congr fun r _ => congrArg (List.replicate · r) ?_
  change (db.joined [Env.root r] (s.joins ++ blocks.flatten)).countP _ = _
  rw [Database.joined_append, Database.joined_eq_flatMap, Compiler.multiplicity,
    ← List.countP_true]
  refine countP_flatMap_eq_mul fun e he => ?_
  have hr : e rootAlias = r := by
    rw [Database.joined_apply_of_notMem he hs.rootAlias_notMem, Env.root_rootAlias]
  rw [if_pos rfl, h.countP_joined hs e, hr]

end FilterQuery

import FilterQuery.Backend.Watched
import FilterQuery.Execution
import FilterQuery.Proofs.Compile.Reuse

/-!
# What is fetched, and how much it joins

A page is fetched with one query, or not at all. How deep its joins may go is a setting of the
compiler, whatever the criteria say.

* `Executor.watched`: an executor whose calls are noted;
* `Built.length_joins`, `Criteria.length_joins_sortOperands`, **`joins_of_finish`**: the joins of
  fields, of sort keys and of a query;
* `Compiler.find_of_prepare`, `Compiler.find_of_prepare_error`: fetching with a query, and without;
* **`find_once`**: when the executor is called, with what, and how many joins that takes.
-/

namespace FilterQuery

open Sql

/-! ## Joins of fields and of sort keys -/

theorem Declaration.relations_of_not_hasPath {d : Declaration} (h : ¬ d.hasPath = true) :
    d.relations = [] := if_neg h

theorem Compiler.Accepts.length_le {c : Compiler} {d : Declaration} (h : c.Accepts d) :
    d.relations.length ≤ c.config.maxRelationDepth := by
  by_cases hp : d.hasPath = true
  · rw [Accepts, if_pos hp] at h
    exact h.2
  · rw [Declaration.relations_of_not_hasPath hp]
    exact Nat.zero_le _

/-- **Compiled fields join no more than the depth allows**, and only those with a path join. -/
theorem Built.length_joins {c : Compiler} {s : Criteria} {fields : List (Declaration × Input)}
    {blocks : List (List Join)} {ps : List Constraint} (h : Built c s fields blocks ps) :
    blocks.flatten.length ≤
        c.config.maxRelationDepth * (fields.filter fun f => f.1.hasPath).length ∧
      ∀ f ∈ fields, f.1.relations.length ≤ c.config.maxRelationDepth := by
  induction h with
  | nil => exact ⟨Nat.zero_le _, fun _ hf => absurd hf List.not_mem_nil⟩
  | @cons s d input p rest blocks ps accepts _ _ ih =>
    obtain ⟨hlength, hdepth⟩ := ih
    have hblock : (c.block s d).length = d.relations.length := Criteria.length_chain _ _ _ _
    have hd := accepts.length_le
    refine ⟨?_, List.forall_mem_cons.2 ⟨hd, hdepth⟩⟩
    -- A field without a path has no relations, so it counts for nothing.
    rw [List.flatten_cons, List.length_append, hblock]
    by_cases hp : d.hasPath = true
    · have hfilter : ((d, input) :: rest).filter (fun f => f.1.hasPath) =
          (d, input) :: rest.filter fun f => f.1.hasPath := List.filter_cons_of_pos hp
      rw [hfilter, List.length_cons, Nat.mul_succ]
      omega
    · have hfilter : ((d, input) :: rest).filter (fun f => f.1.hasPath) =
          rest.filter fun f => f.1.hasPath := List.filter_cons_of_neg hp
      rw [hfilter, Declaration.relations_of_not_hasPath hp, List.length_nil, Nat.zero_add]
      exact hlength

namespace Sql.Criteria

variable {c c' : Criteria}

theorem length_joins_reuseChain {names : List String} {parent source : Source}
    (h : reuseChain names parent c = .ok source c') :
    c'.joins.length ≤ c.joins.length + names.length := by
  induction names generalizing c parent with
  | nil =>
    obtain ⟨-, rfl⟩ := pure_eq_ok_iff.1 h
    exact Nat.le_refl _
  | cons name names ih =>
    obtain ⟨next, d, hj, hr⟩ := reuseChain_cons_eq_ok_iff.1 h
    have hrest : c'.joins.length ≤ d.joins.length + names.length := ih hr
    have hfirst : d.joins.length ≤ c.joins.length + 1 := by
      rcases reuseJoin_eq_ok_iff.1 hj with ⟨-, -, -, rfl⟩ | ⟨-, -, -, rfl⟩
      · exact Nat.le_succ _
      · simp
    rw [List.length_cons]
    omega

/-- **Sort keys join no more than the depth allows.** -/
theorem length_joins_sortOperands {keys : List SortKey} {order : List (SortKey × Operand)}
    (h : sortOperands keys c = .ok order c') :
    c'.joins.length ≤ c.joins.length + c.maxDepth * keys.length ∧
      ∀ key ∈ keys, key.relations.length ≤ c.maxDepth := by
  induction keys generalizing c order with
  | nil =>
    obtain ⟨-, rfl⟩ := pure_eq_ok_iff.1 h
    exact ⟨Nat.le_refl _, fun _ hk => absurd hk List.not_mem_nil⟩
  | cons key keys ih =>
    obtain ⟨a, d, order', ha, hr, -⟩ := sortOperands_cons_eq_ok_iff.1 h
    obtain ⟨p, source, hp, hchain, -⟩ := sortOperand_eq_ok_iff.1 ha
    obtain ⟨rfl, -, hdepth⟩ := readSortKey_eq_ok_iff.1 hp
    have hfirst := length_joins_reuseChain hchain
    obtain ⟨hrest, hkeys⟩ := ih hr
    obtain ⟨js, rfl, -⟩ := hung_of_reuseChain List.mem_cons_self hchain
    rw [maxDepth_withJoins] at hrest hkeys
    refine ⟨?_, List.forall_mem_cons.2 ⟨hdepth, hkeys⟩⟩
    rw [List.length_cons, Nat.mul_succ]
    omega

end Sql.Criteria

/-- **The joins of a query.** The fields have a depth of their own, and so do the sort keys. -/
theorem joins_of_finish {F : Type} {c : Compiler} {t : FilterType F} {object : F}
    {page page' : PageRequest} {s s' : Criteria} {r : Compiled Constraint} {q : SelectQuery}
    (h : c.compile Criteria.backend t object page s = .ok r s')
    (hq : s'.finish r.constraint page' = .ok q) :
    ∃ fields joins order, t.declarations.active object = .ok fields ∧
      q.sql = "SELECT t0.*" ++ s.fromClause ++ joinClauses s.dialect joins ++
        whereClause s.dialect r.constraint ++ orderClause s.dialect order ++ " " ++
        page'.clause ∧
      s.joins <+: joins ∧
      joins.length ≤ s.joins.length + c.config.maxRelationDepth *
        (fields.filter fun f => f.1.hasPath).length + s.maxDepth * page'.sort.length ∧
      (∀ f ∈ fields, f.1.relations.length ≤ c.config.maxRelationDepth) ∧
      ∀ key ∈ page'.sort, key.relations.length ≤ s.maxDepth := by
  obtain ⟨hk, -⟩ := compile_eq_ok_iff.1 h
  obtain ⟨fields, blocks, ps, hactive, hb, -, rfl⟩ := constraint_eq_ok_iff.1 hk
  obtain ⟨order, sorted, hsort, rfl⟩ := Criteria.finish_eq_ok_iff.1 hq
  obtain ⟨hfields, hdepth⟩ := hb.length_joins
  obtain ⟨hkeys, hdeep⟩ := Criteria.length_joins_sortOperands hsort
  obtain ⟨added, rfl, -⟩ := Criteria.hung_of_sortOperands hsort
  refine ⟨fields, _, order, hactive, rfl,
    (List.prefix_append _ _).trans (List.prefix_append _ _), ?_, hdepth, hdeep⟩
  simp only [Criteria.joins_withJoins, Criteria.maxDepth_withJoins, List.length_append]
    at hkeys ⊢
  omega

/-! ## Calls of the executor -/

section

variable {Store Item F : Type} {c : Compiler} {t : FilterType F} {object : F} {page : PageRequest}
  {criteria : Criteria}

/-- An executor whose calls are noted, whether they succeed or not. -/
def Executor.watched (executor : Executor Store Item) :
    Executor (Watched Store (SelectQuery × PageRequest)) Item := fun query page =>
  watch (fun _ => [(query, page)]) (executor query page)

theorem Compiler.prepare_of_compile_error {e : QueryError} {s : Criteria}
    (h : c.compile Criteria.backend t object page
      (criteria.withMaxDepth c.config.maxRelationDepth) = .error e s) :
    c.prepare t object page criteria = .error e := by
  unfold prepare
  rw [h]

theorem Compiler.prepare_of_compile {r : Compiled Constraint} {s : Criteria}
    (h : c.compile Criteria.backend t object page
      (criteria.withMaxDepth c.config.maxRelationDepth) = .ok r s) :
    c.prepare t object page criteria =
      (s.finish r.constraint r.page).map fun query => (query, r.page) := by
  unfold prepare
  rw [h]

theorem Compiler.find_of_prepare_error (executor : Executor Store Item) {e : QueryError}
    (h : c.prepare t object page criteria = .error e) (store : Store) :
    c.find t object page criteria executor store = .error e store := by
  unfold find
  rw [h]

theorem Compiler.find_of_prepare (executor : Executor Store Item) {q : SelectQuery}
    {page' : PageRequest} (h : c.prepare t object page criteria = .ok (q, page')) :
    c.find t object page criteria executor = executor q page' := by
  funext store
  unfold find
  rw [h]

/-- **The executor is called at most once.** A filter object that does not compile, or whose query
cannot be finished, stops before the call. Otherwise the executor is called with the query that was
finished and the page as the filter type understands it, and its answer is the answer. The greatest
depth is that of the compiler: no field and no sort key goes deeper, and the query has at most so
many further joins for each field with a path and for each sort key. -/
theorem find_once (c : Compiler) (t : FilterType F) (object : F) (page : PageRequest)
    (criteria : Criteria) (executor : Executor Store Item)
    (store : Watched Store (SelectQuery × PageRequest)) :
    (∀ depth, c.find t object page (criteria.withMaxDepth depth) executor.watched store =
      c.find t object page criteria executor.watched store) ∧
    ((∃ e s, c.compile Criteria.backend t object page
          (criteria.withMaxDepth c.config.maxRelationDepth) = .error e s ∧
        c.find t object page criteria executor.watched store = .error e store) ∨
      ∃ r s, c.compile Criteria.backend t object page
          (criteria.withMaxDepth c.config.maxRelationDepth) = .ok r s ∧
        r.page = t.declarations.sortPage page ∧
        ((∃ e, s.finish r.constraint r.page = .error e ∧
            c.find t object page criteria executor.watched store = .error e store) ∨
          ∃ q, s.finish r.constraint r.page = .ok q ∧
            c.find t object page criteria executor.watched store =
              watch (fun _ => [(q, r.page)]) (executor q r.page) store ∧
            ∃ fields joins order, t.declarations.active object = .ok fields ∧
              q.sql = "SELECT t0.*" ++ criteria.fromClause ++ joinClauses criteria.dialect joins ++
                whereClause criteria.dialect r.constraint ++ orderClause criteria.dialect order ++
                " " ++ r.page.clause ∧
              criteria.joins <+: joins ∧
              joins.length ≤ criteria.joins.length + c.config.maxRelationDepth *
                ((fields.filter fun f => f.1.hasPath).length + page.sort.length) ∧
              (∀ f ∈ fields, f.1.relations.length ≤ c.config.maxRelationDepth) ∧
              ∀ key ∈ r.page.sort, key.relations.length ≤ c.config.maxRelationDepth)) := by
  refine ⟨fun _ => rfl, ?_⟩
  cases h : c.compile Criteria.backend t object page
      (criteria.withMaxDepth c.config.maxRelationDepth) with
  | error e s =>
    have hprepare := Compiler.prepare_of_compile_error h
    exact .inl ⟨e, s, rfl, Compiler.find_of_prepare_error executor.watched hprepare store⟩
  | ok r s =>
    have hprepare := Compiler.prepare_of_compile h
    obtain ⟨-, hpage⟩ := compile_eq_ok_iff.1 h
    refine .inr ⟨r, s, rfl, hpage, ?_⟩
    cases hq : s.finish r.constraint r.page with
    | error e =>
      rw [hq] at hprepare
      exact .inl ⟨e, rfl, Compiler.find_of_prepare_error executor.watched hprepare store⟩
    | ok q =>
      rw [hq] at hprepare
      refine .inr ⟨q, rfl, ?_, ?_⟩
      · rw [Compiler.find_of_prepare executor.watched hprepare]
        rfl
      · obtain ⟨fields, joins, order, hactive, hsql, hprefix, hjoins, hdepth, hdeep⟩ :=
          joins_of_finish h hq
        have hlength : r.page.sort.length = page.sort.length := by
          rw [hpage]
          exact List.length_map _
        refine ⟨fields, joins, order, hactive, hsql, hprefix, ?_, hdepth, hdeep⟩
        rw [Nat.mul_add, ← Nat.add_assoc, ← hlength]
        exact hjoins

/-- One call for the example, whose sort key joins. -/
example : passes ((Compiler.atEpoch .left).find sharing () byOwner people
    NumberedRows.executor.watched ({ total := 3 }, [])) (fun _ w => w.2.length == 1) = true := by
  decide +kernel

end

end FilterQuery

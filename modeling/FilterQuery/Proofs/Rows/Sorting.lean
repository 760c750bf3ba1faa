import FilterQuery.Proofs.Rows.Intersection
import FilterQuery.Proofs.Sql.Sort

/-!
# Sorting does not change which rows match

The page statement may have more joins than the count statement. They are left joins, so no row is
lost, and no row is repeated if they lead to one row at most.

* `Database.rowsAt`, `Database.ToOne`: a join that leads to one row at most;
* **`Database.joined_hung`**: left joins to one row at most neither drop nor repeat a row;
* `SelectQuery.Selects`, **`Criteria.selects_of_sortOperands`**: the texts of both statements of a page;
* `Built.qualifier_mem`: a compiled constraint looks at the root and at its own joins;
* **`finish_rows`**: both statements of a page select the same rows.
-/

namespace FilterQuery

open Sql

variable {V : Type}

/-! ## Joins to one row at most -/

namespace Sql

namespace Database

variable (db : Database V)

/-- The rows that may stand under an alias: those of the root table, or those of a joined table and
a row of nulls. -/
def rowsAt (table : String) (js : List Join) (a : String) : List (Row V) :=
  (if a = rootAlias then db.rows table else []) ++
    (js.filter fun j => j.tableAlias == a).flatMap fun j => Row.null :: db.rows j.table

/-- One row at most meets the condition of a join, for each row of its parent. -/
def ToOne (table : String) (js : List Join) (j : Join) : Prop :=
  ∀ owner ∈ db.rowsAt table js j.parentAlias, (db.matching j.relation owner).length ≤ 1

instance (table : String) (js : List Join) (j : Join) : Decidable (db.ToOne table js j) :=
  inferInstanceAs (Decidable (∀ owner ∈ db.rowsAt table js j.parentAlias, _))

/-- The row of each table may stand under its alias. -/
def Sound (table : String) (all js : List Join) (e : Env V) : Prop :=
  ∀ source ∈ sources js, e source.tableAlias ∈ db.rowsAt table all source.tableAlias

variable {db} {table : String} {all js ks : List Join} {e : Env V}

theorem mem_rowsAt_root {r : Row V} (h : r ∈ db.rows table) :
    r ∈ db.rowsAt table all rootAlias := by
  rw [rowsAt, if_pos rfl]
  exact List.mem_append_left _ h

theorem mem_rowsAt_join {j : Join} (hj : j ∈ all) {r : Row V}
    (h : r = Row.null ∨ r ∈ db.rows j.table) : r ∈ db.rowsAt table all j.tableAlias := by
  refine List.mem_append_right _ (List.mem_flatMap.2 ⟨j, ?_, List.mem_cons.2 h⟩)
  exact List.mem_filter.2 ⟨hj, beq_self_eq_true _⟩

theorem sound_of_mem_joined {r : Row V} (hr : r ∈ db.rows table) (hn : Numbered js)
    (hall : ∀ j ∈ js, j ∈ all) (h : e ∈ db.joined [Env.root r] js) : db.Sound table all js e := by
  intro source hs
  rcases List.mem_cons.1 hs with rfl | hs
  · have hroot : e rootAlias = r := by
      rw [joined_apply_of_notMem h hn.rootAlias_notMem, Env.root_rootAlias]
    change e rootAlias ∈ db.rowsAt table all rootAlias
    rw [hroot]
    exact mem_rowsAt_root hr
  · obtain ⟨j, hj, rfl⟩ := List.mem_map.1 hs
    exact mem_rowsAt_join (hall j hj) (joined_apply_mem hn.nodup_alias h hj)

theorem partners_left {r : Relation} {owner : Row V} (h : (db.matching r owner).length ≤ 1) :
    ∃ p, db.partners .left r owner = [p] := by
  unfold partners
  generalize db.matching r owner = rows at h ⊢
  rcases rows with _ | ⟨p, _ | ⟨q, rest⟩⟩
  · exact ⟨Row.null, rfl⟩
  · exact ⟨p, rfl⟩
  · simp at h

/-- **Left joins to one row at most neither drop nor repeat a row.** -/
theorem joined_hung (h : Hung js ks) (hn : Numbered js) (hall : ∀ j ∈ ks, j ∈ all)
    (hone : ∀ j ∈ ks, db.ToOne table all j) (he : db.Sound table all js e) :
    ∃ e', db.joined [e] ks = [e'] := by
  induction h generalizing e with
  | nil => exact ⟨e, rfl⟩
  | @cons js ks j parent mem type_eq parent_eq alias_eq tail ih =>
    rw [List.forall_mem_cons] at hall hone
    have howner : e j.parentAlias ∈ db.rowsAt table all j.parentAlias := by
      rw [parent_eq]
      exact he parent mem
    obtain ⟨p, hp⟩ := partners_left (hone.1 _ howner)
    have hjoin : db.join [e] j = [Function.update e j.tableAlias p] := by
      rw [join, List.flatMap_singleton, type_eq, hp, List.map_singleton]
    have hn' : Numbered (js ++ [j]) := hn.snoc alias_eq
    have hp' : p = Row.null ∨ p ∈ db.rows j.table := by
      refine mem_partners (?_ : p ∈ db.partners .left j.relation (e j.parentAlias))
      rw [hp]
      exact List.mem_singleton_self p
    rw [joined_cons, hjoin]
    refine ih hn' hall.2 hone.2 fun source hs => ?_
    rcases mem_sources_snoc hs with hs | rfl
    · have hne : source.tableAlias ≠ j.tableAlias := by
        intro heq
        refine hn'.alias_notMem hs ?_
        rw [heq]
        exact List.mem_singleton_self _
      rw [Function.update_of_ne hne]
      exact he source hs
    · change Function.update e j.tableAlias p j.tableAlias ∈ _
      rw [Function.update_self]
      exact mem_rowsAt_join hall.1 hp'

end Database

/-! ## Selected rows -/

theorem map_filter_flatMap {α β : Type} {es : List α} {f : α → List α} {p : α → Bool} {g : α → β}
    (h : ∀ e ∈ es, ∃ e', f e = [e'] ∧ p e' = p e ∧ g e' = g e) :
    ((es.flatMap f).filter p).map g = (es.filter p).map g := by
  induction es with
  | nil => rfl
  | cons e es ih =>
    obtain ⟨⟨e', hf, hp, hg⟩, hes⟩ := List.forall_mem_cons.1 h
    rw [List.flatMap_cons, hf, List.singleton_append, List.filter_cons, List.filter_cons, hp]
    split
    · rw [List.map_cons, List.map_cons, hg, ih hes]
    · exact ih hes

/-- **Left joins to one row at most do not change which rows are selected**, if the constraint does
not look at them. -/
theorem Selection.rows_hung {db : Database V} {table : String} {js ks : List Join} {k : Constraint}
    (h : Hung js ks) (hn : Numbered js)
    (hk : ∀ a ∈ k.operands, ∃ source ∈ sources js, a.qualifier = source.tableAlias)
    (hone : ∀ j ∈ ks, db.ToOne table (js ++ ks) j) :
    (Selection.mk table (js ++ ks) k).rows db = (Selection.mk table js k).rows db := by
  have hjoined : (Selection.mk table (js ++ ks) k).envs db =
      ((Selection.mk table js k).envs db).flatMap fun e => db.joined [e] ks := by
    rw [envs, envs, Database.joined_append, Database.joined_eq_flatMap _ ks]
  unfold rows
  rw [hjoined]
  refine map_filter_flatMap fun e he => ?_
  rw [envs, Database.mem_joined] at he
  obtain ⟨_, hroot, he⟩ := he
  obtain ⟨r, hr, rfl⟩ := List.mem_map.1 hroot
  have hsound : db.Sound table (js ++ ks) js e :=
    Database.sound_of_mem_joined hr hn (fun j hj => List.mem_append_left _ hj) he
  obtain ⟨e', he'⟩ :=
    Database.joined_hung h hn (fun j hj => List.mem_append_right _ hj) hone hsound
  have hsame : ∀ source ∈ sources js, e' source.tableAlias = e source.tableAlias := by
    intro source hs
    have hmem : e' ∈ db.joined [e] ks := by
      rw [he']
      exact List.mem_singleton_self e'
    exact Database.joined_apply_of_notMem hmem ((h.numbered hn).alias_notMem hs)
  refine ⟨e', he', ?_, hsame .root List.mem_cons_self⟩
  have htruth : k.truth (db.engine.judge e') = k.truth (db.engine.judge e) := by
    refine Constraint.truth_congr k fun a ha => ?_
    obtain ⟨source, hs, hq⟩ := hk a ha
    have hcell : a.cell db.engine e' = a.cell db.engine e := by
      refine Operand.cell_congr ?_
      rw [hq]
      exact hsame source hs
    funext t
    rw [Engine.judge, Engine.judge, hcell]
  rw [admits, admits, htruth]

/-- Both statements of a page are made of selections. -/
theorem Criteria.select_eq {c : Criteria} {js : List Join} {k : Constraint}
    {order : List (SortKey × Operand)} {page : PageRequest} :
    (c.select js k order page).sql = "SELECT t0.*" ++ (c.selection k).sql c.dialect ++
      (orderClause c.dialect order ++ " " ++ page.clause) ∧
    (c.select js k order page).countSql =
      "SELECT COUNT(*)" ++ (Selection.mk c.table js k).sql c.dialect := by
  have hroot : "SELECT " ++ rootAlias ++ ".*" = "SELECT t0.*" := by decide
  unfold Criteria.select
  simp only [hroot, Selection.sql, Criteria.selection, Criteria.fromClause, String.append_assoc,
    and_self]

/-- The statements of a page, made of a selection for the page and one for the count. The page
statement lists the columns of the order behind `ORDER BY`, each as its key is written, and has no
such words without columns. -/
structure SelectQuery.Selects (q : SelectQuery) (d : Dialect) (full count : Selection)
    (order : List (SortKey × Operand)) (page : PageRequest) : Prop where
  sql_unordered : order = [] → q.sql = "SELECT t0.*" ++ full.sql d ++ " " ++ page.clause
  sql_ordered : order ≠ [] → q.sql = "SELECT t0.*" ++ full.sql d ++ " ORDER BY " ++
    Text.joined ", " (order.map fun entry => entry.1.clause (entry.2.sql d)) ++ " " ++ page.clause
  countSql_eq : q.countSql = "SELECT COUNT(*)" ++ count.sql d

/-- **Both statements of a page, with their order.** -/
theorem Criteria.selects_of_sortOperands {c c' : Criteria} {keys : List SortKey} {k : Constraint}
    {order : List (SortKey × Operand)} {page : PageRequest}
    (h : sortOperands keys c = .ok order c') :
    (c'.select c.joins k order page).Selects c.dialect (c'.selection k) (c.selection k) order
      page := by
  obtain ⟨added, rfl, -⟩ := hung_of_sortOperands h
  refine ⟨fun hnil => ?_, fun hne => ?_, select_eq.2⟩
  · rw [select_eq.1, hnil, orderClause, String.empty_append, ← String.append_assoc]
    rfl
  · rw [select_eq.1, orderClause]
    · simp only [String.append_assoc]
      rfl
    · exact hne

end Sql

/-! ## What a constraint looks at -/

theorem Clause.eq_of_mem_operands {clause : Clause} {a b : Operand}
    (h : b ∈ (clause.constraint a).operands) : b = clause.view.operand a := by
  obtain ⟨view, shape⟩ := clause
  cases shape with
  | always => cases h
  | passes t | fails t => exact List.mem_singleton.1 h
  | both t u | either t u =>
    change b ∈ [view.operand a, view.operand a] at h
    simpa using h

theorem View.qualifier_operand (view : View) (a : Operand) :
    (view.operand a).qualifier = a.qualifier := by
  cases view <;> rfl

theorem Operation.qualifier_look (op : Operation) (a : Operand) :
    (op.look a).qualifier = a.qualifier := by
  unfold Operation.look
  split <;> rfl

/-- **A compiled constraint looks at the root and at its own joins.** -/
theorem Built.qualifier_mem {c : Compiler} {s : Criteria} {fields : List (Declaration × Input)}
    {blocks : List (List Join)} {ps : List Constraint} (h : Built c s fields blocks ps)
    (hs : Numbered s.joins) : ∀ p ∈ ps, ∀ a ∈ p.operands,
      ∃ source ∈ sources (s.joins ++ blocks.flatten), a.qualifier = source.tableAlias := by
  induction h with
  | nil => exact fun p hp => absurd hp List.not_mem_nil
  | @cons s d input p rest blocks ps ha build tail ih =>
    rw [List.flatten_cons, ← List.append_assoc, List.forall_mem_cons]
    refine ⟨fun a hmem => ?_, ih (Compiler.numbered_located hs)⟩
    obtain ⟨-, clause, -, rfl⟩ := (Compiler.build_located_eq_ok_iff hs ha).1 build
    refine ⟨tip .root (c.block s d), sources_append_left ?_, ?_⟩
    · exact Criteria.tip_chain_mem_sources List.mem_cons_self
    · rw [Clause.eq_of_mem_operands hmem, View.qualifier_operand, Operation.qualifier_look]
      rfl

/-! ## Both statements of a page -/

/-- **Both statements of a page select the same rows**, as often as they do, if the joins that only
serve the order lead to one row at most. -/
theorem finish_rows {F : Type} (c : Compiler) (t : FilterType F) (object : F)
    (page page' : PageRequest) {c₀ c₁ c₂ : Criteria} {r : Compiled Constraint} {q : SelectQuery}
    (h₀ : c₀.Reachable) (h : c.compile Criteria.backend t object page c₀ = .ok r c₁)
    (hs : Criteria.Steps c₁ c₂) (hq : c₂.finish r.constraint page' = .ok q) :
    ∃ (added : List Join) (order : List (SortKey × Operand)) (full count : Selection),
      Criteria.sortOperands page'.sort c₂ = .ok order (c₂.withJoins added) ∧
      full = ⟨c₂.table, c₂.joins ++ added, r.constraint⟩ ∧
      count = ⟨c₂.table, c₂.joins, r.constraint⟩ ∧
      q.sql = "SELECT t0.*" ++ full.sql c₂.dialect ++
        (orderClause c₂.dialect order ++ " " ++ page'.clause) ∧
      q.countSql = "SELECT COUNT(*)" ++ count.sql c₂.dialect ∧
      ∀ (V : Type) (db : Database V),
        (∀ j ∈ added, db.ToOne c₂.table (c₂.joins ++ added) j) → full.rows db = count.rows db := by
  obtain ⟨hk, -⟩ := compile_eq_ok_iff.1 h
  obtain ⟨fields, blocks, ps, -, hb, hand, rfl⟩ := constraint_eq_ok_iff.1 hk
  have hn₀ : Numbered c₀.joins := h₀.numbered
  have hn₂ : Numbered c₂.joins := hs.numbered (hb.numbered hn₀)
  obtain ⟨order, c₃, hsort, rfl⟩ := Criteria.finish_eq_ok_iff.1 hq
  obtain ⟨added, rfl, hhung⟩ := Criteria.hung_of_sortOperands hsort
  have hlook : ∀ a ∈ r.constraint.operands,
      ∃ source ∈ sources c₂.joins, a.qualifier = source.tableAlias := by
    intro a ha
    rw [hand, Constraint.mem_operands_and] at ha
    obtain ⟨p, hp, ha⟩ := ha
    obtain ⟨source, hsource, hqual⟩ := hb.qualifier_mem hn₀ p hp a ha
    obtain ⟨rest, hrest⟩ := hs.prefix_joins
    refine ⟨source, ?_, hqual⟩
    rw [← hrest]
    exact sources_append_left hsource
  exact ⟨added, order, _, _, hsort, rfl, rfl, Criteria.select_eq.1, Criteria.select_eq.2,
    fun V db hone => Selection.rows_hung hhung hn₂ hlook hone⟩

/-- The order of the example takes one more join, to one row at most, and one person is selected
with it as without it. -/
theorem finish_rows_sharing : ∃ r c₁ q, ∃ (added : List Join) (order : List (SortKey × Operand))
    (full count : Selection),
    (Compiler.atEpoch .inner).compile Criteria.backend sharing () byOwner people = .ok r c₁ ∧
    c₁.finish r.constraint byOwner = .ok q ∧
    added.length = 1 ∧ (count.rows Database.sample).map (fun r => r "name") = [some "Max"] ∧
    Criteria.sortOperands byOwner.sort c₁ = .ok order (c₁.withJoins added) ∧
    full = ⟨c₁.table, c₁.joins ++ added, r.constraint⟩ ∧
    count = ⟨c₁.table, c₁.joins, r.constraint⟩ ∧
    q.sql = "SELECT t0.*" ++ full.sql c₁.dialect ++
      (orderClause c₁.dialect order ++ " " ++ byOwner.clause) ∧
    q.countSql = "SELECT COUNT(*)" ++ count.sql c₁.dialect ∧
    full.rows Database.sample = count.rows Database.sample := by
  obtain ⟨r, c₁, h, hcheck⟩ := exists_of_passes
    ((Compiler.atEpoch .inner).compile Criteria.backend sharing () byOwner people)
    (fun r c => ((c.selection r.constraint).rows Database.sample).map (fun r => r "name") ==
        [some "Max"] &&
      passes (Criteria.sortOperands byOwner.sort c) fun _ d =>
        (d.joins.drop c.joins.length).length == 1 &&
          (d.joins.drop c.joins.length).all fun j => Database.sample.ToOne c.table d.joins j)
    (by decide +kernel)
  rw [Bool.and_eq_true, beq_iff_eq] at hcheck
  obtain ⟨order, d, hsort, hd⟩ := exists_of_passes _ _ hcheck.2
  rw [Bool.and_eq_true, beq_iff_eq, List.all_eq_true] at hd
  have hq : c₁.finish r.constraint byOwner = .ok _ := Criteria.finish_eq_ok_iff.2 ⟨_, _, hsort, rfl⟩
  obtain ⟨added, order, full, count, hsort', rfl, rfl, hsql, hcount, hrows⟩ :=
    finish_rows _ _ _ _ _ ⟨people, rfl, .refl⟩ h .refl hq
  rw [hsort, EStateM.Result.ok.injEq] at hsort'
  obtain ⟨rfl, rfl⟩ := hsort'
  rw [Criteria.joins_withJoins, List.drop_left] at hd
  exact ⟨r, c₁, _, added, _, _, _, h, hq, hd.1, hcheck.1, hsort, rfl, rfl, hsql, hcount,
    hrows String Database.sample fun j hj => of_decide_eq_true (hd.2 j hj)⟩

end FilterQuery

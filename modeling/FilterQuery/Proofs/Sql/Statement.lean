import FilterQuery.Proofs.Rows.Sorting
import FilterQuery.Proofs.Sql.Growth
import FilterQuery.Proofs.Sql.Scan

/-!
# Statements are sealed

Names of tables, columns and keys come from outside and may hold any text. Wherever they stand in a
statement, they stay inside their quotes, and the only markers are those of the bound values.

* `Relation.writes_onCondition`, `writes_joinClauses`, `writes_whereClause`, `writes_orderClause`:
  the parts of statements;
* `Criteria.Change`, `Criteria.InUse`: criteria that keep their dialect and name only tables that
  are there; `Criteria.InUse.scoped`;
* `Sealed`: what a statement looks like to a lexer; **`sealed_select`**, **`sealed_of_compile`**.
-/

namespace FilterQuery

namespace Sql

/-! ## Parts of statements -/

variable {d : Dialect}

theorem IsAlias.plain {a : String} (h : IsAlias a) : isPlainText a = true :=
  isPlainText_of_isWord h.isWord

namespace Relation

variable {owner related : String}

theorem writes_equation (ho : IsAlias owner) (hr : IsAlias related) (key : String × String) :
    Writes d (Ends d) (equation d owner related key) [] := by
  have howner : Writes d Anything (owner ++ ".") [] :=
    (Writes.plain ho.plain).then_plain (by decide)
  have hleft : Writes d Anything (owner ++ "." ++ identifier d key.1 ++ " = ") [] :=
    (howner.append (writes_identifier key.1) fun _ _ => trivial).separated (by decide)
  have hrelated : Writes d Anything
      (owner ++ "." ++ identifier d key.1 ++ " = " ++ related ++ ".") [] :=
    (hleft.then_plain hr.plain).then_plain (by decide)
  exact hrelated.append (writes_identifier key.2) fun _ _ => trivial

theorem writes_onCondition (r : Relation) (ho : IsAlias owner) (hr : IsAlias related) :
    Writes d (Ends d) (r.onCondition d owner related) [] := by
  unfold onCondition
  split
  · exact .plain (by decide)
  · refine .joined_names (by decide) fun text htext => ?_
    obtain ⟨key, -, rfl⟩ := List.mem_map.1 htext
    exact writes_equation ho hr key

end Relation

/-- A join of two tables of a query in this dialect. -/
structure Join.Scoped (d : Dialect) (j : Join) : Prop where
  dialect_eq : j.dialect = d
  parent : IsAlias j.parentAlias
  table : IsAlias j.tableAlias

theorem Join.writes_clause {j : Join} (h : j.Scoped d) : Writes d (Ends d) (j.clause d) [] := by
  have hkeyword : isPlainText (" " ++ j.joinType.keyword ++ " ") = true := by
    cases j.joinType <;> decide
  have htable : Writes d Anything
      (" " ++ j.joinType.keyword ++ " " ++ identifier d j.table ++ " ") [] :=
    ((writes_identifier j.table).plain_append hkeyword).separated (by decide)
  have hon : Writes d (Ends d) j.on [] := by
    rw [Join.on, h.dialect_eq]
    exact j.relation.writes_onCondition h.parent h.table
  have hbefore : Writes d Anything (" " ++ j.joinType.keyword ++ " " ++ identifier d j.table ++
      " " ++ j.tableAlias ++ " ON ") [] := (htable.then_plain h.table.plain).then_plain (by decide)
  exact hbefore.append hon fun _ _ => trivial

/-- The text is empty or starts with a separator, so that it can follow a name. -/
def Continues (d : Dialect) (text : String) : Prop :=
  ∀ rest, Ends d rest → Ends d (text.toList ++ rest)

theorem continues_empty : Continues d "" := fun _ h => h

theorem continues_append {sep : String} (h : isSeparator sep = true) (text : String) :
    Continues d (sep ++ text) := fun _ _ => Ends.text h

theorem continues_joinClauses (js : List Join) : Continues d (joinClauses d js) := by
  cases js with
  | nil => exact continues_empty
  | cons j js =>
    simp only [joinClauses, Join.clause, String.append_assoc]
    exact continues_append (by decide) _

theorem writes_joinClauses {js : List Join} (h : ∀ j ∈ js, j.Scoped d) :
    Writes d (Ends d) (joinClauses d js) [] := by
  induction js with
  | nil => exact .empty
  | cons j js ih =>
    obtain ⟨hj, hjs⟩ := List.forall_mem_cons.1 h
    exact (Join.writes_clause hj).append (ih hjs) (continues_joinClauses js)

variable {k : Constraint}

theorem continues_whereClause : Continues d (whereClause d k) := by
  unfold whereClause
  split
  · exact continues_empty
  · exact continues_append (by decide) _

theorem writes_whereClause (h : ∀ a ∈ k.operands, IsAlias a.qualifier) :
    Writes d (Ends d) (whereClause d k) (Constraint.placeholders d 0 k.params.length) := by
  unfold whereClause
  split
  · rename_i halways
    cases k with
    | always => exact .empty
    | _ => cases halways
  · exact (k.writes_sql 0 h).plain_append (by decide)

variable {order : List (SortKey × Operand)}

theorem continues_orderClause : Continues d (orderClause d order) := by
  cases order with
  | nil => exact continues_empty
  | cons key order => exact continues_append (by decide) _

theorem writes_orderClause (h : ∀ key ∈ order, IsAlias key.2.qualifier) :
    Writes d (Ends d) (orderClause d order) [] := by
  have hkey : ∀ key ∈ order, Writes d (Ends d) (key.1.clause (key.2.sql d)) [] := by
    intro key hmem
    have hspace : Writes d Anything (key.2.sql d ++ " ") [] :=
      (Operand.writes_sql (h key hmem)).separated (by decide)
    refine (hspace.then_plain ?_).then_plain ?_
    · cases key.1.order <;> decide
    · cases key.1.nulls with
      | none => decide
      | some nulls => cases nulls <;> decide
  cases order with
  | nil => exact .empty
  | cons key order =>
    refine Writes.plain_append (by decide) (.joined_names (by decide) fun text htext => ?_)
    obtain ⟨key, hmem, rfl⟩ := List.mem_map.1 htext
    exact hkey key hmem

end Sql

open Sql in
theorem PageRequest.plain_clause (page : PageRequest) : isPlainText page.clause = true := by
  have hnumber : ∀ n : Nat, isPlainText (toString n) = true := fun n =>
    isPlainText_of_isWord (isWord_toString n)
  unfold PageRequest.clause
  rw [isPlainText_append, isPlainText_append, hnumber]
  split
  · decide
  · rw [isPlainText_append, hnumber]
    decide

namespace Sql

/-! ## Criteria that keep their dialect -/

namespace Criteria

/-- One change of criteria: another setting than the dialect, or a join from a table that is
there. -/
inductive Change : Criteria → Criteria → Prop
  | maxDepth (c : Criteria) (depth : Nat) : Change c (c.withMaxDepth depth)
  | relation (c : Criteria) (path : String) (r : Relation) : Change c (c.withRelation path r)
  | collection (c : Criteria) (path : String) : Change c (c.withCollection path)
  | join {c c' : Criteria} (h : Grow c c') : Change c c'

/-- Any number of changes. -/
abbrev Changes : Criteria → Criteria → Prop := Relation.ReflTransGen Change

/-- Criteria that came about by changes from criteria without joins. -/
def InUse (c : Criteria) : Prop := ∃ c₀ : Criteria, c₀.joins = [] ∧ Changes c₀ c

variable {c c' : Criteria}

theorem Grown.changes (h : Grown c c') : Changes c c' :=
  Relation.ReflTransGen.mono (fun _ _ step => Change.join step) _ _ h

theorem InUse.changed (h : c.InUse) (hc : Changes c c') : c'.InUse := by
  obtain ⟨c₀, h₀, hs⟩ := h
  exact ⟨c₀, h₀, hs.trans hc⟩

/-- **The joins of criteria in use have aliases in order and the dialect of the criteria.** -/
theorem InUse.scoped (h : c.InUse) : Numbered c.joins ∧ ∀ j ∈ c.joins, j.Scoped c.dialect := by
  obtain ⟨c₀, h₀, hs⟩ := h
  induction hs with
  | refl =>
    rw [h₀]
    exact ⟨.nil, fun j hj => absurd hj List.not_mem_nil⟩
  | tail _ step ih =>
    cases step with
    | maxDepth | relation | collection => exact ih
    | join step =>
      obtain ⟨hn, hall⟩ := ih
      obtain ⟨parent, mem, name, type, -, rfl⟩ := step.exists_nextJoin
      refine ⟨hn.snoc rfl, List.forall_mem_append.2 ⟨hall, ?_⟩⟩
      rw [List.forall_mem_singleton]
      exact ⟨rfl, isAlias_of_mem hn mem, .inr ⟨_, rfl⟩⟩

end Criteria

/-! ## Sealed statements -/

/-- The markers of `n` parameters: each with its number, or all alike. -/
def Dialect.markers (n : Nat) : Dialect → List String
  | postgreSQL => (List.range n).map fun i => "$" ++ toString (i + 1)
  | mySQL | sqLite => List.replicate n "?"

theorem placeholders_eq_map (m n : Nat) :
    Constraint.placeholders d m n = (List.range n).map fun i => d.placeholder (m + i + 1) := by
  induction n generalizing m with
  | zero => rfl
  | succ n ih =>
    rw [Constraint.placeholders, ih, List.range_succ_eq_map, List.map_cons, List.map_map]
    simp [Function.comp_def, Nat.add_assoc, Nat.add_comm 1]

theorem placeholders_eq_markers (n : Nat) : Constraint.placeholders d 0 n = d.markers n := by
  rw [placeholders_eq_map]
  cases d with
  | postgreSQL => simp [Dialect.markers, Dialect.placeholder]
  | mySQL | sqLite => simp [Dialect.markers, Dialect.placeholder]

/-- Every quote that is opened is closed, all other characters are code, and the markers are those
of `n` parameters. -/
def Sealed (d : Dialect) (n : Nat) (text : String) : Prop :=
  ∃ ps, scan d text.toList = some ps ∧ (∀ p ∈ ps, ∀ c ∈ p.outside, isCode c = true) ∧
    ps.filterMap Piece.marker? = d.markers n

theorem Writes.sealed {n : Nat} {text : String}
    (h : Writes d (Ends d) text (Constraint.placeholders d 0 n)) : Sealed d n text := by
  obtain ⟨ps, hscan, hcode, hmarkers⟩ := h
  refine ⟨ps, ?_, hcode, hmarkers.trans (placeholders_eq_markers n)⟩
  have hps := hscan [] .nil
  rw [List.append_nil, scan] at hps
  simpa using hps

/-- **Both statements for a constraint and an order are sealed.** -/
theorem sealed_select {c : Criteria} {js : List Join} {page : PageRequest}
    (hjoins : ∀ j ∈ c.joins, j.Scoped c.dialect) (hjs : ∀ j ∈ js, j ∈ c.joins)
    (hk : ∀ a ∈ k.operands, IsAlias a.qualifier) (horder : ∀ key ∈ order, IsAlias key.2.qualifier) :
    Sealed c.dialect k.params.length (c.select js k order page).sql ∧
      Sealed c.dialect k.params.length (c.select js k order page).countSql := by
  have hroot : isPlainText rootAlias = true := IsAlias.plain (.inl rfl)
  have hfrom : Writes c.dialect Anything c.fromClause [] := by
    have htable : Writes c.dialect Anything (" FROM " ++ identifier c.dialect c.table ++ " ") [] :=
      ((writes_identifier c.table).plain_append (by decide)).separated (by decide)
    exact htable.then_plain hroot
  have hbody : ∀ start : String, isPlainText start = true → ∀ js : List Join,
      (∀ j ∈ js, j.Scoped c.dialect) → Writes c.dialect (Ends c.dialect)
        (start ++ c.fromClause ++ joinClauses c.dialect js ++ whereClause c.dialect k)
        (Constraint.placeholders c.dialect 0 k.params.length) := by
    intro start hstart js hjs
    have htables : Writes c.dialect (Ends c.dialect)
        (start ++ c.fromClause ++ joinClauses c.dialect js) [] :=
      (hfrom.plain_append hstart).append_code (writes_joinClauses hjs) fun _ _ => trivial
    exact htables.append (writes_whereClause hk) continues_whereClause
  refine ⟨Writes.sealed ?_, Writes.sealed (hbody _ (by decide) js fun j hj => hjoins j (hjs j hj))⟩
  have hordered : Writes c.dialect (Ends c.dialect) _ _ :=
    (hbody ("SELECT " ++ rootAlias ++ ".*") (by decide) c.joins hjoins).append_code
      (writes_orderClause horder) continues_orderClause
  exact (hordered.separated (by decide)).then_plain page.plain_clause

end Sql

open Sql

/-! ## Statements of compiled constraints -/

theorem Built.grown {c : Compiler} {s : Criteria} {fields : List (Declaration × Input)}
    {blocks : List (List Join)} {ps : List Constraint} (h : Built c s fields blocks ps) :
    Criteria.Grown s (s.withJoins blocks.flatten) := by
  induction h with
  | nil =>
    rw [List.flatten_nil, Criteria.withJoins_nil]
  | @cons s d _ _ _ blocks _ accepts _ _ ih =>
    rw [List.flatten_cons, ← Criteria.withJoins_withJoins]
    exact (Criteria.grown_chain List.mem_cons_self accepts.name_ne_empty).trans ih

/-- **No name gets out of its quotes, and the markers are those of the bound values**, in both
statements of a compiled constraint and a page. -/
theorem sealed_of_compile {F : Type} (c : Compiler) (t : FilterType F) (object : F)
    (page page' : PageRequest) {s s₁ s₂ : Criteria} {r : Compiled Constraint} {q : SelectQuery}
    (hs : s.InUse) (h : c.compile Criteria.backend t object page s = .ok r s₁)
    (h₂ : Criteria.Changes s₁ s₂) (hq : s₂.finish r.constraint page' = .ok q) :
    Sealed s₂.dialect q.params.length q.sql ∧ Sealed s₂.dialect q.params.length q.countSql := by
  obtain ⟨hk, -⟩ := compile_eq_ok_iff.1 h
  obtain ⟨fields, blocks, ps, -, hb, hand, rfl⟩ := constraint_eq_ok_iff.1 hk
  obtain ⟨order, s₃, hsort, rfl⟩ := Criteria.finish_eq_ok_iff.1 hq
  obtain ⟨hgrown, hkeys⟩ := Criteria.grown_sortOperands hsort
  have hs₁ : (s.withJoins blocks.flatten).InUse := hs.changed hb.grown.changes
  have hs₃ : s₃.InUse := (hs₁.changed h₂).changed hgrown.changes
  have hdialect : s₃.dialect = s₂.dialect := by
    obtain ⟨js, rfl⟩ := hgrown.exists_withJoins
    rfl
  have hlook : ∀ a ∈ r.constraint.operands, IsAlias a.qualifier := by
    intro a ha
    rw [hand, Constraint.mem_operands_and] at ha
    obtain ⟨p, hp, ha⟩ := ha
    obtain ⟨source, hsource, hqual⟩ := hb.qualifier_mem hs.scoped.1 p hp a ha
    rw [hqual]
    exact isAlias_of_mem hs₁.scoped.1 hsource
  have horder : ∀ key ∈ order, IsAlias key.2.qualifier := by
    intro key hkey
    obtain ⟨source, hsource, leaf, hcolumn⟩ := hkeys key hkey
    rw [hcolumn]
    exact isAlias_of_mem hs₃.scoped.1 hsource
  rw [← hdialect]
  exact sealed_select hs₃.scoped.2 (fun j hj => hgrown.prefix_joins.subset hj) hlook horder

/-- Criteria whose names hold quotes, markers and what ends a statement elsewhere. -/
def contrived : Criteria :=
  Criteria.withRelation { table := "peo\"ple; --", dialect := .sqLite } "account"
    ⟨"account", .manyToOne, "ac?count $1", ["order"], ["i\"d"]⟩

/-- The same for columns. -/
def contrivedType : FilterType Unit := .holding "Person" [
  (⟨"a.b' OR ''='", .like, ""⟩, .scalar (.text "x")),
  (⟨"status", .isIn, "account.?"⟩, .list [.text "A", .int 3])]

/-- The same for a sort key. -/
def contrivedPage : PageRequest :=
  { size := 5, sort := [⟨"account.$2 \"", .descending, some .last⟩] }

theorem sealed_of_compile_contrived : ∃ (r : Compiled Constraint) (s : Criteria) (q : SelectQuery),
    (Compiler.atEpoch .inner).compile Criteria.backend contrivedType () contrivedPage contrived =
      .ok r s ∧
    s.finish r.constraint contrivedPage = .ok q ∧ q.params.length = 3 ∧
    q.countSql = "SELECT COUNT(*) FROM \"peo\"\"ple; --\" t0 " ++
      "INNER JOIN \"ac?count $1\" j1 ON t0.\"order\" = j1.\"i\"\"d\" " ++
      "WHERE (LOWER(t0.\"a.b' OR ''='\") LIKE ? AND j1.\"?\" IN (?, ?))" ∧
    Sealed .sqLite 3 q.sql ∧ Sealed .sqLite 3 q.countSql := by
  obtain ⟨r, s, h, hcheck⟩ := exists_of_passes
    ((Compiler.atEpoch .inner).compile Criteria.backend contrivedType () contrivedPage contrived)
    (fun r c => c.dialect == .sqLite && r.constraint.params.length == 3 &&
      passes (Criteria.sortOperands contrivedPage.sort c) fun order d =>
        (d.select c.joins r.constraint order contrivedPage).countSql ==
          "SELECT COUNT(*) FROM \"peo\"\"ple; --\" t0 " ++
          "INNER JOIN \"ac?count $1\" j1 ON t0.\"order\" = j1.\"i\"\"d\" " ++
          "WHERE (LOWER(t0.\"a.b' OR ''='\") LIKE ? AND j1.\"?\" IN (?, ?))")
    (by decide +kernel)
  rw [Bool.and_eq_true, Bool.and_eq_true, beq_iff_eq, beq_iff_eq] at hcheck
  obtain ⟨⟨hdialect, hparams⟩, hcheck⟩ := hcheck
  obtain ⟨order, d, hsort, htext⟩ := exists_of_passes _ _ hcheck
  have hq : s.finish r.constraint contrivedPage =
      .ok (d.select s.joins r.constraint order contrivedPage) :=
    Criteria.finish_eq_ok_iff.2 ⟨_, _, hsort, rfl⟩
  have hsealed := sealed_of_compile _ _ _ _ _ ⟨contrived, rfl, .refl⟩ h .refl hq
  have hlength : (d.select s.joins r.constraint order contrivedPage).params.length = 3 := hparams
  rw [hdialect, hlength] at hsealed
  exact ⟨r, s, _, h, hq, hlength, beq_iff_eq.1 htext, hsealed⟩

end FilterQuery

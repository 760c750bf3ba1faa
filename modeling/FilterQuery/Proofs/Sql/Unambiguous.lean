import FilterQuery.Proofs.Sql.Reader

/-!
# Constraints are unambiguous

The text of a constraint and its values say what the constraint is, up to trees that are meant to be
written alike.

* `Constraint.normal`: a constraint as it is read; **`readConstraint_sql`**: it is read from the
  text;
* `Constraint.Same`: the trees that are not told apart; **`Constraint.same_iff`**: those with one
  normal form;
* **`read_sql`**: the text of a constraint is read as the same constraint, and that of no other.
-/

namespace FilterQuery.Sql

namespace Constraint

/-! ## Normal forms -/

/-- The conjunction of constraints, where one needs no brackets. -/
def allOf : List Constraint → Constraint
  | [] => always
  | [k] => k
  | ks => all ks

/-- The disjunction of constraints, where one needs no brackets. -/
def anyOf : List Constraint → Constraint
  | [k] => k
  | ks => any ks

mutual

/-- The constraint as it is read. -/
def normal : Constraint → Constraint
  | always => always
  | test _ (.isIn []) => any []
  | test a t => test a (readsAs t)
  | all cs => allOf (normals cs)
  | any cs => anyOf (normals cs)
  | neg c => neg c.normal

def normals : List Constraint → List Constraint
  | [] => []
  | c :: cs => c.normal :: normals cs

end

theorem normals_eq (cs : List Constraint) : normals cs = cs.map normal := by
  induction cs with
  | nil => rfl
  | cons c cs ih => rw [normals, ih, List.map_cons]

theorem normal_test {a : Operand} {t : Test} (h : t ≠ .isIn []) :
    (test a t).normal = test a (readsAs t) := by
  cases t with
  | isIn vs =>
    cases vs with
    | nil => exact absurd rfl h
    | cons v vs => rw [normal]; simp
  | _ => rfl

variable {d : Dialect}

/-- Constraints after the first one, each after a word. -/
def othersSql (d : Dialect) (word : String) (n : Nat) : List Constraint → String
  | [] => ""
  | c :: cs => word ++ c.sql d n ++ othersSql d word (n + c.params.length) cs

theorem joined_sqlOf (word : String) (n : Nat) (c : Constraint) (cs : List Constraint) :
    Text.joined word (sqlOf d n (c :: cs)) =
      c.sql d n ++ othersSql d word (n + c.params.length) cs := by
  induction cs generalizing n c with
  | nil => rw [sqlOf, sqlOf, othersSql, Text.joined, String.append_empty]
  | cons c' cs ih =>
    have hjoined : Text.joined word (sqlOf d n (c :: c' :: cs)) =
        c.sql d n ++ word ++ Text.joined word (sqlOf d (n + c.params.length) (c' :: cs)) := rfl
    rw [hjoined, ih, othersSql]
    simp only [String.append_assoc]

end Constraint

/-! ## Reading back -/

section

open Constraint

variable {d : Dialect} {values : List Value} {rest : List Char} {met : Nat}

/-- The first letters of operands. -/
def operandHeads : List Char := ['t', 'j', 'L', 'C', 'd', 'J']

theorem exists_head_operand {a : Operand} (h : IsAlias a.qualifier) :
    ∃ c ∈ operandHeads, ∃ cs, (a.sql d).toList = c :: cs := by
  cases a with
  | column qualifier name =>
    obtain rfl | ⟨n, rfl⟩ := h
    · exact ⟨'t', by decide, _, by simp [Operand.sql, rootAlias]; rfl⟩
    · exact ⟨'j', by decide, _, by simp [Operand.sql, joinAlias]; rfl⟩
  | lower a => exact ⟨'L', by decide, _, by simp [Operand.sql]; rfl⟩
  | instant a =>
    cases d with
    | postgreSQL | mySQL =>
      exact ⟨'C', by decide, _, by simp [Operand.sql, Operand.castInstant]; rfl⟩
    | sqLite => exact ⟨'d', by decide, _, by simp [Operand.sql, Operand.castInstant]; rfl⟩
  | size a =>
    cases d with
    | postgreSQL => exact ⟨'C', by decide, _, by simp [Operand.sql, Operand.sizeFunction]; rfl⟩
    | mySQL => exact ⟨'J', by decide, _, by simp [Operand.sql, Operand.sizeFunction]; rfl⟩
    | sqLite => exact ⟨'j', by decide, _, by simp [Operand.sql, Operand.sizeFunction]; rfl⟩

theorem after_operand {a : Operand} (h : IsAlias a.qualifier) :
    ∀ start ∈ ["TRUE", "FALSE", "NOT (", "("],
      Cursor.after start ⟨(a.sql d).toList ++ rest, met⟩ = none := by
  have hdiffer : (["TRUE", "FALSE", "NOT (", "("].all fun start =>
      operandHeads.all fun c => Cursor.differ start.toList [c]) = true := by decide
  obtain ⟨c, hc, cs, hcs⟩ := exists_head_operand (d := d) h
  intro start hstart
  rw [hcs]
  change Cursor.after start ⟨[c] ++ (cs ++ rest), met⟩ = none
  exact Cursor.after_eq_none (List.all_eq_true.1 (List.all_eq_true.1 hdiffer start hstart) c hc)

theorem readConstraint_test {a : Operand} {t : Test} {fuel : Nat} (ha : IsAlias a.qualifier)
    (ht : t ≠ .isIn []) (hp : testParams t <+: values.drop met) (hr : Ends d rest)
    (hf : (testSql d met (a.sql d) t).length < fuel + 1) :
    readConstraint d values (fuel + 1) ⟨(testSql d met (a.sql d) t).toList ++ rest, met⟩ =
      some (.test a (readsAs t), ⟨rest, met + (testParams t).length⟩) := by
  obtain ⟨tail, hsql, hends, hread⟩ := readTest_sql ht hp hr
  rw [hsql, String.length_append] at hf
  rw [hsql, String.toList_append, List.append_assoc]
  have hstart : ∀ start ∈ ["TRUE", "FALSE", "NOT (", "("],
      Cursor.after start ⟨(a.sql d).toList ++ (tail.toList ++ rest), met⟩ = none := after_operand ha
  simp only [List.forall_mem_cons] at hstart
  obtain ⟨htrue, hfalse, hnot, hopen, -⟩ := hstart
  have hoperand : readOperand d (fuel + 1) ⟨(a.sql d).toList ++ (tail.toList ++ rest), met⟩ =
      some (a, ⟨tail.toList ++ rest, met⟩) := readOperand_sql ha (by omega) hends
  have htest := hread (fuel + 1) (by omega)
  simp only [readConstraint, htrue, hfalse, hnot, hopen, hoperand, htest, Option.map_none,
    Option.orElse_eq_orElse, Option.orElse_eq_or, Option.none_or, Option.bind_eq_bind,
    Option.bind_none, Option.bind_some, Option.pure_def]

theorem readOthers_eq_none {word : String} {fuel : Nat} {cur : Cursor} (h : cur.after word = none) :
    readOthers d values word fuel cur = none := by
  cases fuel with
  | zero => rw [readOthers]
  | succ fuel => simp only [readOthers, h, Option.bind_eq_bind, Option.bind_none]

theorem ends_othersSql {word : String} (hw : isSeparator word = true) (n : Nat)
    (cs : List Constraint) : Ends d ((othersSql d word n cs).toList ++ (")".toList ++ rest)) := by
  cases cs with
  | nil =>
    simp only [othersSql, String.toList_empty, List.nil_append]
    exact Ends.append (by decide)
  | cons c cs =>
    simp only [othersSql, String.toList_append, List.append_assoc]
    exact Ends.append hw

theorem after_othersSql {word start : String} (h : Cursor.differ start.toList word.toList = true)
    {n : Nat} {cs : List Constraint} (hne : cs ≠ []) :
    Cursor.after start ⟨(othersSql d word n cs).toList ++ rest, met⟩ = none := by
  cases cs with
  | nil => exact absurd rfl hne
  | cons c cs =>
    simp only [othersSql, String.toList_append, List.append_assoc]
    exact Cursor.after_eq_none h

theorem readConstraint_group {word : String} {build : List Constraint → Constraint}
    (hword : (word = " AND " ∧ build = allOf) ∨ (word = " OR " ∧ build = anyOf))
    {c : Constraint} {cs : List Constraint} {fuel : Nat}
    (hc : ∀ {fuel rest}, Ends d rest → (c.sql d met).length < fuel →
      readConstraint d values fuel ⟨(c.sql d met).toList ++ rest, met⟩ =
        some (c.normal, ⟨rest, met + c.params.length⟩))
    (hcs : ∀ {fuel rest}, cs ≠ [] → (othersSql d word (met + c.params.length) cs).length < fuel →
      readOthers d values word fuel ⟨(othersSql d word (met + c.params.length) cs).toList ++
        (")".toList ++ rest), met + c.params.length⟩ =
          some (normals cs, ⟨rest, met + c.params.length + (paramsOf cs).length⟩))
    (hf : ("(" ++ Text.joined word (sqlOf d met (c :: cs)) ++ ")").length < fuel + 1) :
    readConstraint d values (fuel + 1)
        ⟨("(" ++ Text.joined word (sqlOf d met (c :: cs)) ++ ")").toList ++ rest, met⟩ =
      some (build (normals (c :: cs)), ⟨rest, met + (paramsOf (c :: cs)).length⟩) := by
  have hw : isSeparator word = true := by
    obtain ⟨rfl, -⟩ | ⟨rfl, -⟩ := hword <;> decide
  rw [joined_sqlOf] at hf ⊢
  obtain ⟨hfc, hfcs⟩ : (c.sql d met).length < fuel ∧
      (othersSql d word (met + c.params.length) cs).length < fuel := by
    have hopen : "(".length = 1 := rfl
    simp only [String.length_append, hopen] at hf
    omega
  simp only [String.toList_append, List.append_assoc, paramsOf, List.length_append, ← Nat.add_assoc]
  simp (disch := decide) only [readConstraint, Cursor.after_append, Cursor.after_eq_none,
    hc (ends_othersSql hw _ cs) hfc, Option.map_none, Option.orElse_eq_orElse, Option.orElse_eq_or,
    Option.none_or, Option.bind_eq_bind, Option.bind_none, Option.bind_some]
  -- A bracket after the first constraint, and there is no group; else the word tells which one.
  by_cases hne : cs = []
  · subst hne
    simp only [othersSql, String.toList_empty, List.nil_append, Cursor.after_append,
      Option.map_some, Option.some_or]
    obtain ⟨-, rfl⟩ | ⟨-, rfl⟩ := hword <;> rfl
  · obtain ⟨c', cs', rfl⟩ := List.exists_cons_of_ne_nil hne
    obtain ⟨rfl, rfl⟩ | ⟨rfl, rfl⟩ := hword
    · rw [after_othersSql (by decide) hne, hcs hne hfcs]
      rfl
    · rw [after_othersSql (by decide) hne, hcs hne hfcs,
        readOthers_eq_none (after_othersSql (by decide) hne)]
      rfl

theorem readConstraint_true {fuel : Nat} :
    readConstraint d values (fuel + 1) ⟨"TRUE".toList ++ rest, met⟩ =
      some (always, ⟨rest, met⟩) := by
  simp only [readConstraint, Cursor.after_append, Option.map_some, Option.orElse_eq_orElse,
    Option.orElse_eq_or, Option.some_or]

theorem readConstraint_false {fuel : Nat} :
    readConstraint d values (fuel + 1) ⟨"FALSE".toList ++ rest, met⟩ =
      some (any [], ⟨rest, met⟩) := by
  simp (disch := decide) only [readConstraint, Cursor.after_append, Cursor.after_eq_none,
    Option.map_some, Option.map_none, Option.orElse_eq_orElse, Option.orElse_eq_or, Option.some_or,
    Option.none_or]

mutual

/-- **A constraint is read from its text and values**, whatever follows the text. -/
theorem readConstraint_sql : ∀ (k : Constraint) {met fuel : Nat} {rest : List Char},
    (∀ a ∈ k.operands, IsAlias a.qualifier) → k.params <+: values.drop met → Ends d rest →
    (k.sql d met).length < fuel →
    readConstraint d values fuel ⟨(k.sql d met).toList ++ rest, met⟩ =
      some (k.normal, ⟨rest, met + k.params.length⟩)
  | k, met, 0, rest, _, _, _, hf => absurd hf (Nat.not_lt_zero _)
  | always, met, fuel + 1, rest, _, _, _, _ => readConstraint_true
  | test a t, met, fuel + 1, rest, ha, hp, hr, hf => by
    -- Without values a membership test has the text of a disjunction of nothing.
    by_cases ht : t = .isIn []
    · subst ht
      exact readConstraint_false
    · rw [normal_test ht]
      exact readConstraint_test (ha a List.mem_cons_self) ht hp hr hf
  | all [], met, fuel + 1, rest, _, _, _, _ => readConstraint_true
  | any [], met, fuel + 1, rest, _, _, _, _ => readConstraint_false
  | all (c :: cs), met, fuel + 1, rest, ha, hp, hr, hf => by
    obtain ⟨hac, hacs⟩ := List.forall_mem_append.1 ha
    obtain ⟨hpc, hpcs⟩ := prefix_drop_append hp
    exact readConstraint_group (.inl ⟨rfl, rfl⟩) (readConstraint_sql c hac hpc)
      (fun hne => readOthers_sql (by decide) (by decide) cs hne hacs hpcs) hf
  | any (c :: cs), met, fuel + 1, rest, ha, hp, hr, hf => by
    obtain ⟨hac, hacs⟩ := List.forall_mem_append.1 ha
    obtain ⟨hpc, hpcs⟩ := prefix_drop_append hp
    exact readConstraint_group (.inr ⟨rfl, rfl⟩) (readConstraint_sql c hac hpc)
      (fun hne => readOthers_sql (by decide) (by decide) cs hne hacs hpcs) hf
  | neg k, met, fuel + 1, rest, ha, hp, hr, hf => by
    have hlen : (k.sql d met).length < fuel := by
      have hclose : ")".length = 1 := rfl
      simp only [sql, String.length_append, hclose] at hf
      omega
    have hread : readConstraint d values fuel ⟨(k.sql d met).toList ++ (")".toList ++ rest), met⟩ =
        some (k.normal, ⟨")".toList ++ rest, met + k.params.length⟩) :=
      readConstraint_sql k ha hp (Ends.append (by decide)) hlen
    simp (disch := decide) only [sql, String.toList_append, List.append_assoc, readConstraint,
      Cursor.after_append, Cursor.after_eq_none, hread, Option.map_none, Option.orElse_eq_orElse,
      Option.orElse_eq_or, Option.some_or, Option.none_or, Option.bind_eq_bind, Option.bind_some,
      Option.pure_def]
    rfl

theorem readOthers_sql {word : String} (hw : isSeparator word = true)
    (hclose : Cursor.differ ")".toList word.toList = true) : ∀ (cs : List Constraint)
    {met fuel : Nat} {rest : List Char}, cs ≠ [] →
    (∀ a ∈ operandsOf cs, IsAlias a.qualifier) → paramsOf cs <+: values.drop met →
    (othersSql d word met cs).length < fuel →
    readOthers d values word fuel ⟨(othersSql d word met cs).toList ++ (")".toList ++ rest), met⟩ =
      some (normals cs, ⟨rest, met + (paramsOf cs).length⟩)
  | [], met, fuel, rest, hne, _, _, _ => absurd rfl hne
  | c :: cs, met, 0, rest, _, _, _, hf => absurd hf (Nat.not_lt_zero _)
  | c :: cs, met, fuel + 1, rest, _, ha, hp, hf => by
    obtain ⟨hac, hacs⟩ := List.forall_mem_append.1 ha
    obtain ⟨hpc, hpcs⟩ := prefix_drop_append hp
    have hfc : (c.sql d met).length < fuel ∧
        (othersSql d word (met + c.params.length) cs).length < fuel := by
      have hpos : 0 < word.length := by
        rw [← String.length_toList]
        rw [isSeparator, Bool.and_eq_true] at hw
        cases hword : word.toList with
        | nil => simp [hword] at hw
        | cons ch chs => simp
      simp only [othersSql, String.length_append] at hf
      omega
    have hends : Ends d ((othersSql d word (met + c.params.length) cs).toList ++
        (")".toList ++ rest)) := ends_othersSql hw _ _
    have hc := readConstraint_sql c hac hpc hends hfc.1
    simp only [othersSql, String.toList_append, List.append_assoc, readOthers,
      Cursor.after_append, hc, Option.bind_eq_bind, Option.bind_some, Option.orElse_eq_orElse,
      Option.orElse_eq_or]
    by_cases hne : cs = []
    · subst hne
      simp only [othersSql, String.toList_empty, List.nil_append, Cursor.after_append,
        Option.map_some, Option.some_or]
      simp [normals, paramsOf]
    · rw [after_othersSql hclose hne, readOthers_sql hw hclose cs hne hacs hpcs hfc.2]
      simp [normals, paramsOf, Nat.add_assoc]

end

end

/-! ## Trees that are not told apart -/

namespace Constraint

/-- The least congruence of trees with these identifications. -/
inductive Same : Constraint → Constraint → Prop
  | refl (k : Constraint) : Same k k
  | symm {k l : Constraint} (h : Same k l) : Same l k
  | trans {k l m : Constraint} (h : Same k l) (h' : Same l m) : Same k m
  | eqNull (a : Operand) : Same (test a (.compare .eq .null)) (test a .isNull)
  | neNull (a : Operand) : Same (test a (.compare .ne .null)) (test a .isNotNull)
  | allNil : Same (all []) always
  | inNil (a : Operand) : Same (test a (.isIn [])) (any [])
  | allOne (k : Constraint) : Same (all [k]) k
  | anyOne (k : Constraint) : Same (any [k]) k
  | neg {k l : Constraint} (h : Same k l) : Same (neg k) (neg l)
  | allItem {k l : Constraint} (before after : List Constraint) (h : Same k l) :
      Same (all (before ++ k :: after)) (all (before ++ l :: after))
  | anyItem {k l : Constraint} (before after : List Constraint) (h : Same k l) :
      Same (any (before ++ k :: after)) (any (before ++ l :: after))

theorem Same.normal_eq {k l : Constraint} (h : Same k l) : k.normal = l.normal := by
  induction h with
  | refl => rfl
  | symm _ ih => exact ih.symm
  | trans _ _ ih ih' => exact ih.trans ih'
  | eqNull | neNull | allNil | inNil | allOne | anyOne => rfl
  | neg _ ih => rw [normal, normal, ih]
  | allItem before after _ ih => simp only [normal, normals_eq, List.map_append, List.map_cons, ih]
  | anyItem before after _ ih => simp only [normal, normals_eq, List.map_append, List.map_cons, ih]

theorem same_allOf (ks : List Constraint) : Same (all ks) (allOf ks) := by
  rcases ks with _ | ⟨k, _ | ⟨l, ks⟩⟩
  · exact .allNil
  · exact .allOne k
  · exact .refl _

theorem same_anyOf (ks : List Constraint) : Same (any ks) (anyOf ks) := by
  rcases ks with _ | ⟨k, _ | ⟨l, ks⟩⟩
  · exact .refl _
  · exact .anyOne k
  · exact .refl _

theorem same_readsAs (a : Operand) (t : Test) : Same (test a t) (test a (readsAs t)) := by
  cases t with
  | compare c v =>
    rcases compare_cases c v with ⟨rfl, rfl⟩ | ⟨rfl, rfl⟩ | ⟨hparams, -⟩
    · exact .eqNull a
    · exact .neNull a
    · rw [readsAs_compare hparams]
      exact .refl _
  | _ => exact .refl _

mutual

theorem same_normal : ∀ k : Constraint, Same k k.normal
  | always => .refl _
  | test a t => by
    by_cases ht : t = .isIn []
    · subst ht
      exact .inNil a
    · rw [normal_test ht]
      exact same_readsAs a t
  | all cs => (same_normals cs []).1.trans (same_allOf _)
  | any cs => (same_normals cs []).2.trans (same_anyOf _)
  | neg k => .neg (same_normal k)

theorem same_normals : ∀ cs before : List Constraint,
    Same (all (before ++ cs)) (all (before ++ normals cs)) ∧
      Same (any (before ++ cs)) (any (before ++ normals cs))
  | [], _ => ⟨.refl _, .refl _⟩
  | c :: cs, before => by
    have hc := same_normal c
    obtain ⟨hall, hany⟩ := same_normals cs (before ++ [c.normal])
    rw [List.append_assoc, List.append_assoc] at hall hany
    exact ⟨(Same.allItem before cs hc).trans hall, (Same.anyItem before cs hc).trans hany⟩

end

/-- **Two trees are not told apart if they have one normal form.** -/
theorem same_iff {k l : Constraint} : Same k l ↔ k.normal = l.normal := by
  refine ⟨Same.normal_eq, fun h => (same_normal k).trans ?_⟩
  rw [h]
  exact (same_normal l).symm

/-- Columns are those of the root and of joins. -/
def Qualified (k : Constraint) : Prop := ∀ a ∈ k.operands, IsAlias a.qualifier

theorem read_eq {k : Constraint} (hk : k.Qualified) (d : Dialect) :
    read d (k.sql d 0) k.params = some k.normal := by
  have h : readConstraint d k.params ((k.sql d 0).length + 1) ⟨(k.sql d 0).toList ++ [], 0⟩ =
      some (k.normal, ⟨[], 0 + k.params.length⟩) :=
    readConstraint_sql k hk (List.prefix_refl _) .nil (Nat.lt_succ_self _)
  rw [List.append_nil, Nat.zero_add] at h
  rw [read, h]
  exact if_pos rfl

end Constraint

/-- **Constraints are unambiguous.** The text of a constraint with its values is read as the same
constraint, and the text of another one is read as that if and only if it is the same. -/
theorem read_sql (d : Dialect) (k : Constraint) (hk : k.Qualified) :
    ∃ k', Constraint.read d (k.sql d 0) k.params = some k' ∧ k.Same k' ∧
      ∀ l : Constraint, l.Qualified →
        (Constraint.read d (l.sql d 0) l.params = some k' ↔ k.Same l) := by
  refine ⟨k.normal, Constraint.read_eq hk d, Constraint.same_normal k, fun l hl => ?_⟩
  rw [Constraint.read_eq hl d, Option.some.injEq, Constraint.same_iff, eq_comm]

/-- Names that look like connectives, a range within a disjunction, and groups of one. -/
def lookalikes : Constraint := .all [
  .neg (.any [.test (.lower (.column "t0" "a\" AND ")) (.like "%x"),
    .test (.instant (.column "j1" "between")) (.between (.int 1) (.int 2))]),
  .all [.test (.size (.column "j12" "roles")) (.compare .le (.int 3))],
  .test (.column "t0" "x") (.compare .ne .null)]

theorem read_sql_lookalikes : lookalikes.sql .postgreSQL 0 =
    "(NOT ((LOWER(t0.\"a\"\" AND \") LIKE $1 OR " ++
      "CAST(j1.\"between\" AS TIMESTAMPTZ) BETWEEN $2 AND $3)) AND " ++
      "(CARDINALITY(j12.roles) <= $4) AND t0.x IS NOT NULL)" ∧
    ∃ k', Constraint.read .postgreSQL (lookalikes.sql .postgreSQL 0) lookalikes.params = some k' ∧
      lookalikes.Same k' ∧ ∀ l : Constraint, l.Qualified →
        (Constraint.read .postgreSQL (l.sql .postgreSQL 0) l.params = some k' ↔
          lookalikes.Same l) := by
  refine ⟨by decide +kernel, read_sql _ _ ?_⟩
  have h₁ : IsAlias "j1" := .inr ⟨1, by decide⟩
  have h₁₂ : IsAlias "j12" := .inr ⟨12, by decide⟩
  have h₀ : IsAlias "t0" := .inl rfl
  intro a ha
  change a ∈ [_, _, _, _] at ha
  simp only [List.mem_cons, List.not_mem_nil, or_false] at ha
  rcases ha with rfl | rfl | rfl | rfl
  · exact h₀
  · exact h₁
  · exact h₁₂
  · exact h₀

end FilterQuery.Sql

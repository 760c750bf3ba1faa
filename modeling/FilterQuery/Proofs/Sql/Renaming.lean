import FilterQuery.Proofs.Compile.Fields
import FilterQuery.Proofs.Rows.Database
import FilterQuery.Text.Number

/-!
# Other aliases for the same joins

* `Operand.rename`, `Constraint.rename`, `Source.rename`, `Join.rename`: other aliases for tables;
  `Constraint.operands_rename`, `Clause.rename_constraint`;
* `renumber k`: the alias of a join, counted on from `k`;
* `Criteria.Later k`: criteria with the same settings and `k` more joins;
  **`Criteria.Later.chain`**: a chain made later is the same chain, renumbered.
-/

namespace FilterQuery.Sql

/-! ## Renaming -/

/-- The operand with another alias for its table. -/
def Operand.rename (f : String → String) : Operand → Operand
  | column qualifier name => column (f qualifier) name
  | lower inner => lower (inner.rename f)
  | instant inner => instant (inner.rename f)
  | size inner => size (inner.rename f)

/-- The table with another alias. -/
def Source.rename (f : String → String) (s : Source) : Source :=
  { s with tableAlias := f s.tableAlias }

/-- The join with other aliases. Its condition is written with them. -/
def Join.rename (f : String → String) (j : Join) : Join :=
  { j with parentAlias := f j.parentAlias, tableAlias := f j.tableAlias }

namespace Constraint

mutual

/-- The constraint with other aliases for its tables. -/
def rename (f : String → String) : Constraint → Constraint
  | always => always
  | test a t => test (a.rename f) t
  | all cs => all (renameAll f cs)
  | any cs => any (renameAll f cs)
  | neg c => neg (c.rename f)

/-- Constraints in a row with other aliases. -/
def renameAll (f : String → String) : List Constraint → List Constraint
  | [] => []
  | c :: cs => c.rename f :: renameAll f cs

end

variable {f : String → String}

theorem renameAll_eq (cs : List Constraint) : renameAll f cs = cs.map (rename f) := by
  induction cs with
  | nil => rfl
  | cons c cs ih => rw [renameAll, ih, List.map_cons]

theorem isAlways_rename (c : Constraint) : (c.rename f).isAlways = c.isAlways := by
  cases c <;> rfl

theorem rename_and (cs : List Constraint) :
    (Constraint.and cs).rename f = .and (cs.map (rename f)) :=
  map_and rfl isAlways_rename (fun cs => congrArg all (renameAll_eq cs)) cs

mutual

theorem operands_rename : ∀ c : Constraint,
    (c.rename f).operands = c.operands.map (Operand.rename f)
  | always => rfl
  | test _ _ => rfl
  | all cs | any cs => operandsOf_renameAll cs
  | neg c => operands_rename c

theorem operandsOf_renameAll : ∀ cs : List Constraint,
    operandsOf (renameAll f cs) = (operandsOf cs).map (Operand.rename f)
  | [] => rfl
  | c :: cs => by
    rw [renameAll, operandsOf, operandsOf, operands_rename c, operandsOf_renameAll cs,
      List.map_append]

end

end Constraint

section

variable {f : String → String}

theorem Operand.qualifier_rename (a : Operand) : (a.rename f).qualifier = f a.qualifier := by
  induction a with
  | column => rfl
  | lower _ ih | instant _ ih | size _ ih => exact ih

theorem tip_rename (source : Source) (js : List Join) :
    tip (source.rename f) (js.map (Join.rename f)) = (tip source js).rename f := by
  induction js generalizing source with
  | nil => rfl
  | cons j js ih => exact ih j.source

end

end FilterQuery.Sql

namespace FilterQuery

open Sql

theorem Clause.rename_constraint (clause : Clause) (f : String → String) (a : Operand) :
    (clause.constraint a).rename f = clause.constraint (a.rename f) := by
  obtain ⟨view, shape⟩ := clause
  cases view <;> cases shape <;> rfl

theorem Operation.rename_look (op : Operation) (f : String → String) (a : Operand) :
    (op.look a).rename f = op.look (a.rename f) := by
  unfold Operation.look
  split <;> rfl

end FilterQuery

namespace FilterQuery.Sql

/-! ## Renumbering -/

/-- The alias of a join, counted on from `k`. Other aliases stay as they are. -/
def renumber (k : Nat) (a : String) : String :=
  match a.toList with
  | 'j' :: digits => joinAlias (Text.digitsValue digits + k)
  | _ => a

variable {k : Nat}

@[simp] theorem renumber_rootAlias : renumber k rootAlias = rootAlias := rfl

@[simp] theorem renumber_joinAlias (n : Nat) : renumber k (joinAlias n) = joinAlias (n + k) := by
  have hlist : (joinAlias n).toList = 'j' :: Nat.toDigits 10 n := by
    rw [joinAlias, String.toList_append]
    show 'j' :: (String.ofList (Nat.toDigits 10 n)).toList = _
    rw [String.toList_ofList]
  rw [renumber, hlist]
  show joinAlias (Text.digitsValue (Nat.toDigits 10 n) + k) = _
  rw [Text.digitsValue_toDigits]

theorem rename_root : Source.root.rename (renumber k) = .root := rfl

namespace Criteria

/-- Criteria with the same settings, and `k` joins more. -/
structure Later (k : Nat) (c d : Criteria) : Prop where
  dialect_eq : d.dialect = c.dialect
  relations_eq : d.relations = c.relations
  length_eq : d.joins.length = c.joins.length + k

namespace Later

variable {c d : Criteria}

theorem relationAt_eq (h : Later k c d) (path name : String) :
    d.relationAt path name = c.relationAt path name := by
  rw [relationAt, relationAt, h.relations_eq]

theorem nextJoin (h : Later k c d) (parent : Source) (name : String) (type : JoinType) :
    d.nextJoin (parent.rename (renumber k)) name type =
      (c.nextJoin parent name type).rename (renumber k) := by
  unfold Criteria.nextJoin Join.rename
  simp only [renumber_joinAlias, h.length_eq, h.dialect_eq, h.relationAt_eq, Source.rename,
    Nat.add_right_comm]

theorem withJoins (h : Later k c d) {js ks : List Join} (hl : ks.length = js.length) :
    Later k (c.withJoins js) (d.withJoins ks) where
  dialect_eq := h.dialect_eq
  relations_eq := h.relations_eq
  length_eq := by
    have hlength := h.length_eq
    simp only [joins_withJoins, List.length_append]
    omega

/-- **A chain that is made later is the same chain, renumbered.** -/
theorem chain (h : Later k c d) (type : JoinType) (parent : Source) (names : List String) :
    Criteria.chain type d (parent.rename (renumber k)) names =
      (Criteria.chain type c parent names).map (Join.rename (renumber k)) := by
  induction names generalizing c d parent with
  | nil => rfl
  | cons name rest ih =>
    have hlater : Later k (c.withJoins [c.nextJoin parent name type])
        (d.withJoins [(c.nextJoin parent name type).rename (renumber k)]) := h.withJoins rfl
    have hrest := ih hlater (c.nextJoin parent name type).source
    rw [Criteria.chain, Criteria.chain, List.map_cons, h.nextJoin, ← hrest]
    rfl

end Later

end Criteria

end FilterQuery.Sql

import FilterQuery.Compiler
import FilterQuery.Proofs.Sql.Chain

/-!
# The fields of a compilation

What a compilation against criteria does for each field that holds a value: a block of joins from
the root, and a predicate on the column at the tip of the block.

* `Field.held`, **`Declarations.active_eq_ok_iff`**: the fields that hold a value;
  `FilterType.holding` makes a filter type of them;
* `Clause.constraint`, `Clause.build_backend`: the predicate of a clause is a constraint;
  `Criteria.sizeOf_eq`: the size of a column;
* `Compiler.block`, `Compiler.column`, `Compiler.locate_eq_ok_iff`: the block and the column of
  a field;
* `Built`: fields compiled one after the other; **`constraint_eq_ok_iff`**: a compilation is that,
  under the conjunction of the predicates;
* `Compiler.Compiles`, **`exists_built_iff`**: fields compile together if each of them compiles;
* `sharing`, `people`, `byOwner`: an example whose fields and sort key share a relation.
-/

namespace FilterQuery

open Sql

/-! ## Fields that hold a value -/

/-- The declaration of a field with its input, if the object holds a value for it. -/
def Field.held {F : Type} (object : F) (f : Field F) : Option (Declaration × Input) :=
  match f.read object with
  | .ok (some input) => if input.isNull then none else some (f.declaration, input)
  | _ => none

theorem Declarations.activeFields_eq_ok_iff {F : Type} {object : F} {fields : List (Field F)}
    {active : List (Declaration × Input)} : activeFields object fields = .ok active ↔
      (∀ f ∈ fields, ∃ input, f.read object = .ok input) ∧
        active = fields.filterMap (Field.held object) := by
  induction fields generalizing active with
  | nil =>
    rw [activeFields, Except.ok.injEq, eq_comm]
    simp
  | cons f rest ih =>
    rw [activeFields, List.forall_mem_cons]
    cases hr : f.read object with
    | error e => simp
    | ok input =>
      rcases input with _ | input
      · have hf : f.held object = none := by rw [Field.held, hr]
        rw [List.filterMap_cons_none hf]
        simp [ih]
      cases hn : input.isNull with
      | true =>
        have hf : f.held object = none := by rw [Field.held, hr]; exact if_pos hn
        rw [List.filterMap_cons_none hf]
        simp [ih, hn]
      | false =>
        have hf : f.held object = some (f.declaration, input) := by
          rw [Field.held, hr]
          exact if_neg (by rw [hn]; decide)
        rw [List.filterMap_cons_some hf]
        cases hrest : activeFields object rest with
        | error e =>
          have hne : ¬ ∀ g ∈ rest, ∃ input, g.read object = .ok input := fun h => by
            have hok : activeFields object rest = .ok (rest.filterMap (Field.held object)) :=
              ih.2 ⟨h, rfl⟩
            rw [hrest] at hok
            cases hok
          simp [Except.map, hn, hne]
        | ok fields =>
          obtain ⟨h, rfl⟩ := ih.1 hrest
          simp only [hn, Except.map, Bool.false_eq_true, if_false, Except.ok.injEq, exists_eq',
            true_and]
          exact ⟨fun e => ⟨h, e.symm⟩, fun e => e.2.symm⟩

/-- **The active fields are those that hold a value, in order, if all can be read.** -/
theorem Declarations.active_eq_ok_iff {F : Type} {d : Declarations F} {object : F}
    {active : List (Declaration × Input)} : d.active object = .ok active ↔
      (∀ f ∈ d.fields, ∃ input, f.read object = .ok input) ∧
        active = d.fields.filterMap (Field.held object) :=
  activeFields_eq_ok_iff

/-- A filter type whose only object holds the given inputs. -/
def FilterType.holding (name : String) (fields : List (Declaration × Input)) : FilterType Unit :=
  ⟨name, ⟨fields.map fun f => ⟨f.1, fun _ => .ok (some f.2)⟩⟩⟩

/-! ## Predicates as constraints -/

/-- An operand in a view. -/
def View.operand (a : Operand) : View → Operand
  | plain => a
  | lower => .lower a
  | instant => .instant a

/-- The constraint of a combination of tests. -/
def Shape.constraint (a : Operand) : Shape → Constraint
  | always => .always
  | passes t => .test a t
  | fails t => .neg (.test a t)
  | both t u => .all [.test a t, .test a u]
  | either t u => .any [.test a t, .test a u]

/-- The constraint of a clause. -/
def Clause.constraint (a : Operand) (c : Clause) : Constraint :=
  c.shape.constraint (c.view.operand a)

/-- The number of items, for an operator that looks at it, or the operand itself. -/
def Operation.look (op : Operation) (a : Operand) : Operand := if op.countsItems then .size a else a

theorem Clause.build_backend (c : Clause) (a : Operand) (s : Criteria) :
    c.build Criteria.backend a s = (c.constraint a, s) := by
  obtain ⟨view, shape⟩ := c
  cases view <;> cases shape <;> rfl

theorem Sql.Criteria.sizeOf_eq {c : Criteria} {a : Operand} {path : String}
    (h : c.attributePath a = some path) : c.sizeOf a =
      if path ∈ c.collections then .ok (.size a) else .error (.notACollection path) := by
  unfold sizeOf
  rw [h]
  simp only [List.contains_iff_mem]

theorem Operation.target_backend_eq_ok_iff {op : Operation} {a a' : Operand} {s : Criteria} :
    op.target Criteria.backend a s = .ok a' ↔ a' = op.look a ∧
      (op.countsItems = true → ∃ path, s.attributePath a = some path ∧ path ∈ s.collections) := by
  unfold Operation.target Operation.look
  by_cases hc : op.countsItems = true
  · simp only [hc, if_true, true_implies]
    change (s.sizeOf a).mapError _ = _ ↔ _
    unfold Criteria.sizeOf
    cases hp : s.attributePath a with
    | none => simp [Except.mapError]
    | some path =>
      by_cases hm : path ∈ s.collections
      · simp [Except.mapError, hm, eq_comm]
      · simp [Except.mapError, hm]
  · simp [hc, eq_comm]

/-- **A predicate on criteria is the constraint of a clause, and leaves the criteria alone.** -/
theorem Operation.build_backend_eq_ok_iff {ctx : PredicateContext} {op : Operation} {a : Operand}
    {input : Input} {s s' : Criteria} {p : Constraint} :
    op.build Criteria.backend ctx a input s = .ok p s' ↔ s' = s ∧
      (op.countsItems = true → ∃ path, s.attributePath a = some path ∧ path ∈ s.collections) ∧
      ∃ clause, op.clause ctx input = .ok clause ∧ p = clause.constraint (op.look a) := by
  unfold Operation.build
  cases ht : op.target Criteria.backend a s with
  | error e =>
    have hn : ¬ (op.countsItems = true →
        ∃ path, s.attributePath a = some path ∧ path ∈ s.collections) := fun h => by
      have hok : op.target Criteria.backend a s = .ok (op.look a) :=
        Operation.target_backend_eq_ok_iff.2 ⟨rfl, h⟩
      rw [ht] at hok
      cases hok
    simp [hn]
  | ok a' =>
    obtain ⟨rfl, hm⟩ := Operation.target_backend_eq_ok_iff.1 ht
    cases hc : op.clause ctx input with
    | error e => simp
    | ok clause =>
      simp only [Clause.build_backend, EStateM.Result.ok.injEq, Except.ok.injEq]
      constructor
      · rintro ⟨rfl, rfl⟩
        exact ⟨rfl, hm, clause, rfl, rfl⟩
      · rintro ⟨rfl, -, _, rfl, rfl⟩
        exact ⟨rfl, rfl⟩

/-! ## One field -/

namespace Compiler

variable (c : Compiler) (s : Criteria) (d : Declaration)

/-- A field can be located: its path, if it has one, has no blank segment and is not too deep. -/
def Accepts : Prop :=
  if d.hasPath then
    (∀ segment ∈ d.relations ++ [d.leaf], Text.allBlank segment = false) ∧
      d.relations.length ≤ c.config.maxRelationDepth
  else d.field ≠ ""

/-- The joins made for a field. -/
def block : List Join := Criteria.chain c.config.joinType s .root d.relations

/-- The column that a field constrains, at the tip of its block. -/
def column : Operand := .column (tip .root (c.block s d)).tableAlias d.leaf

/-- The criteria once a field is located. -/
def located : Criteria := s.withJoins (c.block s d)

variable {c s d}

theorem locate_eq_ok_iff {s' : Criteria} {a : Operand} :
    c.locate Criteria.backend d s = .ok a s' ↔
      c.Accepts d ∧ a = c.column s d ∧ s' = c.located s d := by
  unfold locate Accepts column located block Declaration.relations Declaration.leaf
  by_cases h : d.hasPath = true
  · simp only [h, if_true]
    have hp := Declaration.hasPath_iff.1 h
    rw [resolve_eq_ok_iff]
    simp only [DottedPath.segments, hp, ne_eq, not_false_eq_true, true_and, and_assoc]
  · simp only [h]
    change Criteria.columnOf .root d.field s = .ok a s' ↔ _
    rw [Criteria.columnOf_eq_ok_iff]
    simp [Criteria.chain, tip]

theorem Accepts.name_ne_empty (h : c.Accepts d) : ∀ name ∈ d.relations, name ≠ "" := by
  intro name hm
  unfold Accepts at h
  by_cases hp : d.hasPath = true
  · rw [if_pos hp] at h
    exact RelationPath.ne_empty_of_allBlank_eq_false (h.1 name (List.mem_append_left _ hm))
  · rw [Declaration.relations, if_neg hp] at hm
    cases hm

theorem numbered_located (hs : Numbered s.joins) : Numbered (c.located s d).joins :=
  Criteria.numbered_chain hs

theorem constrain_eq_ok_iff {name : String} {input : Input} {s' : Criteria} {p : Constraint} :
    c.constrain Criteria.backend name d input s = .ok p s' ↔ c.Accepts d ∧ s' = c.located s d ∧
      d.operation.build Criteria.backend c.context (c.column s d) input (c.located s d) =
        .ok p (c.located s d) := by
  unfold constrain
  cases hl : c.locate Criteria.backend d s with
  | error e t =>
    have hn : ¬ c.Accepts d := fun h => by
      have hok := (locate_eq_ok_iff (c := c) (s := s)).2 ⟨h, rfl, rfl⟩
      rw [hl] at hok
      cases hok
    simp [hn]
  | ok a t =>
    obtain ⟨h, rfl, rfl⟩ := locate_eq_ok_iff.1 hl
    dsimp only
    cases hb : d.operation.build Criteria.backend c.context (c.column s d) input
        (c.located s d) with
    | error e t => simp
    | ok q t =>
      obtain ⟨rfl, -⟩ := Operation.build_backend_eq_ok_iff.1 hb
      simp [h, and_comm, eq_comm]

end Compiler

/-! ## All fields -/

/-- Fields compiled one after the other, with the block of joins and the predicate of each. -/
inductive Built (c : Compiler) :
    Criteria → List (Declaration × Input) → List (List Join) → List Constraint → Prop
  | nil (s : Criteria) : Built c s [] [] []
  | cons {s : Criteria} {d : Declaration} {input : Input} {p : Constraint}
      {rest : List (Declaration × Input)} {blocks : List (List Join)} {ps : List Constraint}
      (accepts : c.Accepts d)
      (build : d.operation.build Criteria.backend c.context (c.column s d) input
        (c.located s d) = .ok p (c.located s d))
      (tail : Built c (c.located s d) rest blocks ps) :
      Built c s ((d, input) :: rest) (c.block s d :: blocks) (p :: ps)

variable {c : Compiler} {s s' : Criteria}

theorem eachField_eq_ok_iff {name : String} {fields : List (Declaration × Input)}
    {ps : List Constraint} :
    Compiler.eachField (c.constrain Criteria.backend name) fields s = .ok ps s' ↔
      ∃ blocks, Built c s fields blocks ps ∧ s' = s.withJoins blocks.flatten := by
  induction fields generalizing s s' ps with
  | nil =>
    rw [Compiler.eachField, pure_eq_ok_iff]
    constructor
    · rintro ⟨rfl, rfl⟩
      exact ⟨[], .nil _, by simp⟩
    · rintro ⟨blocks, hb, rfl⟩
      cases hb
      exact ⟨rfl, by simp⟩
  | cons field rest ih =>
    obtain ⟨d, input⟩ := field
    rw [Compiler.eachField, bind_eq_ok_iff]
    simp only [bind_eq_ok_iff, Compiler.constrain_eq_ok_iff, ih, pure_eq_ok_iff]
    constructor
    · rintro ⟨p, _, ⟨ha, rfl, hp⟩, qs, _, ⟨blocks, hb, rfl⟩, rfl, rfl⟩
      exact ⟨_, .cons ha hp hb, Criteria.withJoins_withJoins _ _ _⟩
    · rintro ⟨_, hb, rfl⟩
      cases hb with
      | cons ha hp hb =>
        exact ⟨_, _, ⟨ha, rfl, hp⟩, _, _, ⟨_, hb, rfl⟩, rfl,
          (Criteria.withJoins_withJoins _ _ _).symm⟩

theorem Compiler.conjunction_backend (s : Criteria) (ps : List Constraint) :
    Compiler.conjunction Criteria.backend s ps = .and ps := by
  cases ps <;> rfl

/-- **A compilation is the conjunction of the active fields, compiled one after the other.** -/
theorem constraint_eq_ok_iff {F : Type} {t : FilterType F} {object : F} {k : Constraint} :
    c.constraint Criteria.backend t object s = .ok k s' ↔
      ∃ fields blocks ps, t.declarations.active object = .ok fields ∧ Built c s fields blocks ps ∧
        k = .and ps ∧ s' = s.withJoins blocks.flatten := by
  unfold Compiler.constraint Compiler.assemble
  cases ha : t.declarations.active object with
  | error e => simp
  | ok fields =>
    dsimp only
    cases he : Compiler.eachField (c.constrain Criteria.backend t.name) fields s with
    | error e u =>
      simp only [reduceCtorEq, Except.ok.injEq, false_iff]
      rintro ⟨_, blocks, ps, rfl, hb, -, -⟩
      have hok : Compiler.eachField (c.constrain Criteria.backend t.name) fields s =
          .ok ps (s.withJoins blocks.flatten) := eachField_eq_ok_iff.2 ⟨blocks, hb, rfl⟩
      rw [he] at hok
      cases hok
    | ok ps u =>
      obtain ⟨blocks, hb, rfl⟩ := eachField_eq_ok_iff.1 he
      simp only [Compiler.conjunction_backend, EStateM.Result.ok.injEq, Except.ok.injEq]
      constructor
      · rintro ⟨rfl, rfl⟩
        exact ⟨_, blocks, ps, rfl, hb, rfl, rfl⟩
      · rintro ⟨_, blocks', qs, rfl, hb', rfl, rfl⟩
        have hq : Compiler.eachField (c.constrain Criteria.backend t.name) fields s =
            .ok qs (s.withJoins blocks'.flatten) := eachField_eq_ok_iff.2 ⟨blocks', hb', rfl⟩
        rw [he, EStateM.Result.ok.injEq] at hq
        exact ⟨congrArg _ hq.1, hq.2⟩

theorem compile_eq_ok_iff {F : Type} {t : FilterType F} {object : F} {page : PageRequest}
    {r : Compiled Constraint} :
    c.compile Criteria.backend t object page s = .ok r s' ↔
      c.constraint Criteria.backend t object s = .ok r.constraint s' ∧
        r.page = t.declarations.sortPage page := by
  rw [Compiler.compile, bind_eq_ok_iff]
  simp only [pure_eq_ok_iff]
  constructor
  · rintro ⟨k, _, hk, rfl, rfl⟩
    exact ⟨hk, rfl⟩
  · rintro ⟨hk, hp⟩
    refine ⟨r.constraint, s', hk, ?_, rfl⟩
    rw [← hp]

namespace Built

variable {fields : List (Declaration × Input)} {blocks : List (List Join)} {ps : List Constraint}

theorem length_eq (h : Built c s fields blocks ps) :
    blocks.length = fields.length ∧ ps.length = fields.length := by
  induction h with
  | nil => exact ⟨rfl, rfl⟩
  | cons _ _ _ ih => exact ⟨congrArg Nat.succ ih.1, congrArg Nat.succ ih.2⟩

theorem steps (h : Built c s fields blocks ps) :
    Criteria.Steps s (s.withJoins blocks.flatten) := by
  induction h with
  | nil => rw [List.flatten_nil, Criteria.withJoins_nil]
  | @cons s d _ _ _ blocks _ accepts _ _ ih =>
    rw [List.flatten_cons, ← Criteria.withJoins_withJoins]
    exact (Criteria.steps_chain accepts.name_ne_empty).trans ih

theorem numbered (h : Built c s fields blocks ps) (hs : Numbered s.joins) :
    Numbered (s.joins ++ blocks.flatten) := h.steps.numbered hs

end Built

/-! ## When fields compile -/

namespace Compiler

/-- A field compiles: it can be located, an operator that counts items finds a collection, and the
input fits the operator. -/
def Compiles (c : Compiler) (s : Criteria) (d : Declaration) (input : Input) : Prop :=
  c.Accepts d ∧ (d.operation.countsItems = true → d.target ∈ s.collections) ∧
    ∃ clause, d.operation.clause c.context input = .ok clause

variable {d : Declaration} {input : Input}

/-- **The path of the column of a field is the declared one.** -/
theorem attributePath_column (hs : Numbered s.joins) (ha : c.Accepts d) :
    (c.located s d).attributePath (c.column s d) = some d.target := by
  rw [Declaration.target_eq]
  exact Criteria.attributePath_chain hs ha.name_ne_empty d.leaf

theorem build_located_eq_ok_iff {p : Constraint} (hs : Numbered s.joins) (ha : c.Accepts d) :
    d.operation.build Criteria.backend c.context (c.column s d) input (c.located s d) =
        .ok p (c.located s d) ↔
      (d.operation.countsItems = true → d.target ∈ s.collections) ∧
        ∃ clause, d.operation.clause c.context input = .ok clause ∧
          p = clause.constraint (d.operation.look (c.column s d)) := by
  rw [Operation.build_backend_eq_ok_iff, attributePath_column hs ha]
  simp only [true_and, Option.some.injEq, exists_eq_left']
  rfl

end Compiler

/-- **Fields compile together if each of them compiles.** -/
theorem exists_built_iff {fields : List (Declaration × Input)} (hs : Numbered s.joins) :
    (∃ blocks ps, Built c s fields blocks ps) ↔ ∀ f ∈ fields, c.Compiles s f.1 f.2 := by
  induction fields generalizing s with
  | nil => exact ⟨fun _ _ hf => absurd hf List.not_mem_nil, fun _ => ⟨[], [], .nil s⟩⟩
  | cons f rest ih =>
    obtain ⟨d, input⟩ := f
    rw [List.forall_mem_cons]
    constructor
    · rintro ⟨_, _, hb⟩
      cases hb with
      | cons ha hp tail =>
        obtain ⟨hm, clause, hc, -⟩ := (Compiler.build_located_eq_ok_iff hs ha).1 hp
        exact ⟨⟨ha, hm, clause, hc⟩, (ih (Compiler.numbered_located hs)).1 ⟨_, _, tail⟩⟩
    · rintro ⟨⟨ha, hm, clause, hc⟩, hrest⟩
      obtain ⟨blocks, ps, tail⟩ := (ih (Compiler.numbered_located hs)).2 hrest
      exact ⟨_, _, .cons ha ((Compiler.build_located_eq_ok_iff hs ha).2 ⟨hm, clause, hc, rfl⟩) tail⟩

/-! ## Two paths with one first relation -/

/-- A compiler with default settings, at the start of 1970. -/
def Compiler.atEpoch (joinType : JoinType) : Compiler :=
  ⟨{ joinType := joinType }, ⟨0, 0, by decide, by decide, zero_lt_twoBillion⟩⟩

/-- Two fields follow the relation `account`, one of them further. Another field holds null. -/
def sharing : FilterType Unit := .holding "Person" [
  (⟨"name", .like, ""⟩, .scalar (.text "x")),
  (⟨"status", .equal, "account.status"⟩, .scalar (.text "A")),
  (⟨"note", .equal, ""⟩, .scalar .null),
  (⟨"city", .equal, "account.owner.city"⟩, .scalar (.text "X"))]

/-- Criteria without joins. -/
def people : Criteria := { table := "people" }

/-- A page in the order of a column that the fields do not look at. -/
def byOwner : PageRequest := { size := 5, sort := [⟨"account.owner.name", .ascending, none⟩] }

end FilterQuery

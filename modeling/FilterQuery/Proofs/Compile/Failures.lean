import FilterQuery.Proofs.Compile.Fields
import FilterQuery.Proofs.Sql.Growth

/-!
# Errors of a compilation

All fields are read before the backend is asked for anything. Then the fields that hold a value are
compiled one after the other, and the first that fails gives the error, with its place.

* `bind_eq_error_iff`, `adaptExcept_eq_error_iff`: a failed run of two calls, and of one whose
  errors are changed; `fails`: a check of a failed run;
* `Declarations.active_eq_error_iff`: the first field that cannot be read;
* `Compiler.attempt`: what is tried for a field; `Compiler.constrain_eq`: the same, with the place
  of an error;
* `Compiler.eachField_eq_error_iff`, **`compile_eq_error_iff`**: the first field that fails;
* `FailsWith`: errors of one kind; `Operation.Refuses`, **`Operation.refuses_clause`**: what is
  wrong with an input;
* `Compiler.code_of_attempt_error`, `Criteria.finish_failsWith`: errors of criteria;
* **`compile_error`**: precedence, place and kind of every error.
-/

namespace FilterQuery

open Sql

section

variable {ε σ α β : Type}

theorem bind_eq_error_iff {x : EStateM ε σ α} {f : α → EStateM ε σ β} {s s' : σ} {e : ε} :
    (x >>= f) s = .error e s' ↔
      x s = .error e s' ∨ ∃ a t, x s = .ok a t ∧ f a t = .error e s' := by
  change EStateM.bind x f s = .error e s' ↔ _
  unfold EStateM.bind
  cases x s with
  | ok a t => simp
  | error e t => simp

theorem pure_ne_error {a : α} {s s' : σ} {e : ε} : (pure a : EStateM ε σ α) s ≠ .error e s' := by
  intro h
  cases h

theorem adaptExcept_eq_ok_iff {x : EStateM ε σ α} {g : ε → ε} {s s' : σ} {a : α} :
    x.adaptExcept g s = .ok a s' ↔ x s = .ok a s' := by
  unfold EStateM.adaptExcept
  cases x s <;> simp

theorem adaptExcept_eq_error_iff {x : EStateM ε σ α} {g : ε → ε} {s s' : σ} {e : ε} :
    x.adaptExcept g s = .error e s' ↔ ∃ e₀, x s = .error e₀ s' ∧ e = g e₀ := by
  unfold EStateM.adaptExcept
  cases x s <;> simp [and_comm, eq_comm]

/-- A run fails with what passes a check. -/
def fails (r : EStateM.Result ε σ α) (check : ε → σ → Bool) : Bool :=
  match r with
  | .ok _ _ => false
  | .error e s => check e s

theorem exists_of_fails (r : EStateM.Result ε σ α) (check : ε → σ → Bool)
    (h : fails r check = true) : ∃ e s, r = .error e s ∧ check e s = true := by
  cases r with
  | ok a s => cases h
  | error e s => exact ⟨e, s, rfl, h⟩

end

theorem exists_eq_append_cons {α : Type} {a : α} {l : List α} {p : List α → α → List α → Prop} :
    (∃ before b after, a :: l = before ++ b :: after ∧ p before b after) ↔
      p [] a l ∨ ∃ before b after, l = before ++ b :: after ∧ p (a :: before) b after := by
  constructor
  · rintro ⟨_ | ⟨a', before⟩, b, after, heq, hp⟩
    · obtain ⟨rfl, rfl⟩ := List.cons.inj heq
      exact .inl hp
    · obtain ⟨rfl, rfl⟩ := List.cons.inj heq
      exact .inr ⟨before, b, after, rfl, hp⟩
  · rintro (hp | ⟨before, b, after, rfl, hp⟩)
    · exact ⟨[], a, l, rfl, hp⟩
    · exact ⟨a :: before, b, after, rfl, hp⟩

/-! ## Fields that cannot be read -/

section

variable {F : Type} {object : F} {f : Field F}

theorem Field.read_eq_ok_iff {input : Option Input} :
    f.read object = .ok input ↔ f.access object = .ok input := by
  unfold Field.read
  cases f.access object <;> simp

theorem Field.read_eq_error_iff {e : QueryError} : f.read object = .error e ↔
    ∃ e₀, f.access object = .error e₀ ∧ e = Field.accessError f.name e₀ := by
  unfold Field.read
  cases f.access object <;> simp [eq_comm]

/-- **An error of reading a field is about the access to it**, and says which field it was, unless
it is such an error already. -/
theorem Field.accessError_spec (name : String) (e : QueryError) :
    (Field.accessError name e).code = .fieldAccess ∧ (Field.accessError name e).field =
      some (if e.code = .fieldAccess then e.field.getD name else name) := by
  unfold Field.accessError
  by_cases h : e.code = .fieldAccess
  · simp only [h, if_true]
    exact ⟨h, rfl⟩
  · simp only [h, if_false]
    exact ⟨rfl, rfl⟩

theorem Declarations.activeFields_cons_eq_error_iff {rest : List (Field F)} {input : Option Input}
    {e : QueryError} (h : f.access object = .ok input) :
    activeFields object (f :: rest) = .error e ↔ activeFields object rest = .error e := by
  rw [activeFields, Field.read_eq_ok_iff.2 h]
  rcases input with _ | input
  · exact Iff.rfl
  · dsimp only
    split
    · exact Iff.rfl
    · cases activeFields object rest <;> simp [Except.map]

theorem Declarations.activeFields_eq_error_iff {fields : List (Field F)} {e : QueryError} :
    activeFields object fields = .error e ↔ ∃ before f after, fields = before ++ f :: after ∧
      (∀ g ∈ before, ∃ input, g.access object = .ok input) ∧ ∃ e₀, f.access object = .error e₀ ∧
        e = Field.accessError f.name e₀ := by
  induction fields with
  | nil => simp [activeFields]
  | cons f rest ih =>
    rw [exists_eq_append_cons]
    cases hf : f.access object with
    | error e₀ =>
      rw [activeFields, Field.read_eq_error_iff.2 ⟨e₀, hf, rfl⟩]
      simp [hf, @eq_comm _ e]
    | ok input =>
      rw [activeFields_cons_eq_error_iff hf, ih]
      simp [hf]

/-- **Reading fails at the first field that cannot be read.** -/
theorem Declarations.active_eq_error_iff {d : Declarations F} {e : QueryError} :
    d.active object = .error e ↔ ∃ before f after, d.fields = before ++ f :: after ∧
      (∀ g ∈ before, ∃ input, g.access object = .ok input) ∧ ∃ e₀, f.access object = .error e₀ ∧
        e = Field.accessError f.name e₀ :=
  activeFields_eq_error_iff

end

/-! ## Fields that do not compile -/

section

variable {State Attr Join Pred : Type} {b : Backend State Attr Join Pred} {s s' : State}
  {e : QueryError}

/-- What is tried for a field: to find its attribute, and to make a predicate of it. -/
def Compiler.attempt (c : Compiler) (b : Backend State Attr Join Pred) (d : Declaration)
    (input : Input) : EStateM QueryError State Pred := do
  let a ← c.locate b d
  d.operation.build b c.context a input

namespace Compiler

variable {c : Compiler} {d : Declaration} {input : Input} {filter : String}

theorem constrain_eq : c.constrain b filter d input =
    EStateM.adaptExcept (place filter d) (c.attempt b d input) := by
  funext s
  change _ = EStateM.adaptExcept _ (EStateM.bind _ _) s
  unfold constrain EStateM.adaptExcept EStateM.bind
  cases c.locate b d s with
  | error e t => rfl
  | ok a t =>
    dsimp only
    cases d.operation.build b c.context a input t <;> rfl

theorem constrain_eq_ok_iff_attempt {p : Pred} :
    c.constrain b filter d input s = .ok p s' ↔ c.attempt b d input s = .ok p s' := by
  rw [constrain_eq]
  exact adaptExcept_eq_ok_iff

/-- **An error of what is tried for a field gets its place.** -/
theorem constrain_eq_error_iff : c.constrain b filter d input s = .error e s' ↔
    ∃ e₀, c.attempt b d input s = .error e₀ s' ∧ e = place filter d e₀ := by
  rw [constrain_eq]
  exact adaptExcept_eq_error_iff

theorem eachField_eq_ok_iff_attempt {fields : List (Declaration × Input)} {ps : List Pred} :
    eachField (c.constrain b filter) fields s = .ok ps s' ↔
      eachField (c.attempt b) fields s = .ok ps s' := by
  induction fields generalizing s s' ps with
  | nil => exact Iff.rfl
  | cons field rest ih =>
    simp only [eachField, bind_eq_ok_iff, constrain_eq_ok_iff_attempt, ih]

/-- **The fields of a compilation fail at the first that fails.** Those before it have been
compiled, and those after it have not been tried. -/
theorem eachField_eq_error_iff {fields : List (Declaration × Input)} :
    eachField (c.constrain b filter) fields s = .error e s' ↔
      ∃ before field after, fields = before ++ field :: after ∧
        ∃ ps t, eachField (c.attempt b) before s = .ok ps t ∧
          ∃ e₀, c.attempt b field.1 field.2 t = .error e₀ s' ∧ e = place filter field.1 e₀ := by
  induction fields generalizing s with
  | nil => simp [eachField, pure_ne_error]
  | cons field rest ih =>
    rw [exists_eq_append_cons]
    simp only [eachField, bind_eq_error_iff, bind_eq_ok_iff, pure_eq_ok_iff, pure_ne_error,
      and_false, exists_false, or_false, constrain_eq_error_iff, constrain_eq_ok_iff_attempt, ih]
    constructor
    · rintro (h | ⟨p, t, hp, before, f, after, heq, ps, u, hb, ha⟩)
      · exact .inl ⟨[], s, ⟨rfl, rfl⟩, h⟩
      · exact .inr ⟨before, f, after, heq, p :: ps, u, ⟨p, t, hp, ps, u, hb, rfl, rfl⟩, ha⟩
    · rintro (⟨_, _, ⟨rfl, rfl⟩, h⟩ | ⟨before, f, after, heq, _, u, hps, ha⟩)
      · exact .inl h
      · obtain ⟨p, t, hp, ps, _, hb, rfl, rfl⟩ := hps
        exact .inr ⟨p, t, hp, before, f, after, heq, ps, _, hb, ha⟩

end Compiler

theorem Compiler.constraint_eq_error_iff {F : Type} {c : Compiler} {t : FilterType F} {object : F} :
    c.constraint b t object s = .error e s' ↔
      (∃ e₀, t.declarations.active object = .error e₀ ∧ e = e₀.withFilter t.name ∧ s' = s) ∨
      ∃ active, t.declarations.active object = .ok active ∧
        eachField (c.constrain b t.name) active s = .error e s' := by
  unfold constraint assemble
  cases t.declarations.active object with
  | error e₀ => simp [eq_comm]
  | ok active =>
    dsimp only
    cases he : eachField (c.constrain b t.name) active s <;> simp [he]

/-- **A compilation fails with an error of reading, or with that of the first field that fails.** -/
theorem compile_eq_error_iff {F : Type} {c : Compiler} {t : FilterType F} {object : F}
    {page : PageRequest} : c.compile b t object page s = .error e s' ↔
      (∃ e₀, t.declarations.active object = .error e₀ ∧ e = e₀.withFilter t.name ∧ s' = s) ∨
      ∃ active, t.declarations.active object = .ok active ∧
        Compiler.eachField (c.constrain b t.name) active s = .error e s' := by
  simp only [Compiler.compile, bind_eq_error_iff, pure_ne_error, and_false, exists_false, or_false]
  exact Compiler.constraint_eq_error_iff

end

/-! ## Errors of one kind -/

/-- If there is an error, it is of this kind. -/
def FailsWith {α : Type} (code : ErrorCode) (x : Except QueryError α) : Prop :=
  ∀ e, x = .error e → e.code = code

namespace FailsWith

variable {α β : Type} {code : ErrorCode}

theorem ok (a : α) : FailsWith code (.ok a) := by
  intro e h
  cases h

theorem error {e : QueryError} (h : e.code = code) : FailsWith code (.error e : Except _ α) := by
  rintro _ ⟨⟩
  exact h

theorem bind {x : Except QueryError α} {f : α → Except QueryError β} (hx : FailsWith code x)
    (hf : ∀ a, FailsWith code (f a)) : FailsWith code (x >>= f) := by
  cases x with
  | error e => exact error (hx e rfl)
  | ok a => exact hf a

theorem mapError {x : Except QueryError α} {g : QueryError → QueryError} (hx : FailsWith code x)
    (hg : ∀ e, (g e).code = e.code) : FailsWith code (x.mapError g) := by
  cases x with
  | error e => exact error ((hg e).trans (hx e rfl))
  | ok a => exact ok a

end FailsWith

namespace Operation

/-! ## Inputs that do not fit -/

/-- If there is an error, it is an invalid value, under the name of the operator. -/
def Refuses {α : Type} (op : Operation) (x : Except QueryError α) : Prop :=
  ∀ e, x = .error e → e.code = .invalidFilterValue ∧ e.operation = some op.name

namespace Refuses

variable {α β : Type} {op : Operation}

theorem ok (a : α) : op.Refuses (.ok a) := by
  intro e h
  cases h

theorem error {e : QueryError} (hcode : e.code = .invalidFilterValue)
    (hname : e.operation = some op.name) : op.Refuses (.error e : Except _ α) := by
  rintro _ ⟨⟩
  exact ⟨hcode, hname⟩

theorem bind {x : Except QueryError α} {f : α → Except QueryError β} (hx : op.Refuses x)
    (hf : ∀ a, op.Refuses (f a)) : op.Refuses (x >>= f) := by
  cases x with
  | error e => exact error (hx e rfl).1 (hx e rfl).2
  | ok a => exact hf a

end Refuses

theorem refuses_withOperation {α : Type} {op : Operation} {x : Except QueryError α}
    (h : FailsWith .invalidFilterValue x) : op.Refuses (x.mapError (·.withOperation op.name)) := by
  cases x with
  | error e => exact .error (h e rfl) rfl
  | ok a => exact .ok a

variable (op : Operation) (input : Input)

theorem refuses_reject {α : Type} (found : String) :
    op.Refuses (op.reject found : Except QueryError α) := .error rfl rfl

theorem refuses_scalar : op.Refuses (op.scalar input) := by
  unfold scalar
  split
  · exact op.refuses_reject _
  · exact op.refuses_reject _
  · exact .ok _
  · exact op.refuses_reject _

theorem refuses_pattern : op.Refuses (op.pattern input) := by
  unfold pattern
  split
  · exact .ok _
  · exact op.refuses_reject _

theorem refuses_bound : op.Refuses (op.bound input) := by
  unfold bound
  split
  · exact .ok _
  · split
    · exact .ok _
    · exact op.refuses_reject _
  · exact op.refuses_reject _

theorem refuses_members (ctx : PredicateContext) : op.Refuses (op.members ctx input) := by
  have hlimited : ∀ vs, op.Refuses (members.limited op ctx vs) := by
    intro vs
    unfold members.limited
    split
    · rintro _ ⟨⟩
      exact ⟨rfl, rfl⟩
    · exact .ok _
  unfold members
  split
  · exact hlimited _
  · exact hlimited _
  · exact op.refuses_reject _

theorem ofList_failsWith (vs : List Value) : FailsWith .invalidFilterValue (Range.ofList vs) := by
  unfold Range.ofList Range.of
  split
  · split
    · exact .ok _
    · exact .error rfl
  · exact .error rfl

theorem refuses_range : op.Refuses (op.range input) := by
  unfold range
  split
  · exact .ok _
  · exact refuses_withOperation (ofList_failsWith _)
  · exact refuses_withOperation (ofList_failsWith _)
  · exact op.refuses_reject _

theorem refuses_ends : op.Refuses (op.ends input) := by
  refine (op.refuses_range input).bind fun r => ?_
  split
  · exact .ok _
  · exact .ok _

theorem refuses_date : op.Refuses (op.date input) := by
  unfold date
  split
  · exact .ok _
  · exact .ok _
  · exact op.refuses_reject _

theorem refuses_count : op.Refuses (op.count input) := by
  unfold count
  split
  · split
    · exact .ok _
    · exact op.refuses_reject _
  · exact op.refuses_reject _

theorem refuses_window : op.Refuses (op.window input) := by
  refine (op.refuses_count input).bind fun n => ?_
  split
  · exact .ok _
  · exact op.refuses_reject _

theorem refuses_windowEnd (days : Int) (moved : Option Instant) :
    op.Refuses (op.windowEnd days moved) := by
  unfold windowEnd
  split
  · exact .ok _
  · exact op.refuses_reject _

theorem refuses_flagged (t : Test) : op.Refuses (op.flagged t input) := by
  have hflag : op.Refuses (op.flag input) := by
    unfold flag
    split
    · exact .ok _
    · exact op.refuses_reject _
  refine hflag.bind fun set => ?_
  split
  · exact .ok _
  · exact .ok _

/-- **An input that does not fit its operator is an invalid value.** -/
theorem refuses_clause (ctx : PredicateContext) : op.Refuses (op.clause ctx input) := by
  cases op with
  | equal | notEqual => exact (refuses_scalar _ _).bind fun _ => .ok _
  | like | notLike | startsWith | endsWith => exact (refuses_pattern _ _).bind fun _ => .ok _
  | greaterThan | greaterOrEqual | lessThan | lessOrEqual =>
    exact (refuses_bound _ _).bind fun _ => .ok _
  | isIn | notIn => exact (refuses_members _ _ ctx).bind fun _ => .ok _
  | between | notBetween | betweenExclusive | outsideRange =>
    exact (refuses_ends _ _).bind fun _ => .ok _
  | onDate =>
    refine (refuses_date _ _).bind fun day => ?_
    split
    · exact refuses_reject _ _
    · exact .ok _
  | inLastDays | inNextDays =>
    exact (refuses_window _ _).bind fun _ => (refuses_windowEnd _ _ _).bind fun _ => .ok _
  | sizeEq | sizeGt | sizeLt => exact (refuses_count _ _).bind fun _ => .ok _
  | isTrue | isFalse => exact .ok _
  | isNull | isNotNull => exact refuses_flagged _ _ _

end Operation

/-! ## Errors of criteria -/

theorem RelationPath.readWithin_failsWith (limit : Nat) (path : String) :
    FailsWith .invalidRelationPath (readWithin limit path) := by
  have hread : FailsWith .invalidRelationPath (read path) := by
    unfold read
    split
    · exact .error rfl
    · dsimp only
      split
      · exact .error rfl
      · exact .ok _
  refine hread.bind fun p => ?_
  split
  · exact .error rfl
  · exact .ok _

namespace Sql.Criteria

variable {c c' : Criteria} {e : QueryError}

theorem code_of_addJoin_error {parent : Source} {name : String} {type : JoinType}
    (h : addJoin parent name type c = .error e c') : e.code = .invalidRelationPath := by
  unfold addJoin at h
  split at h
  · rw [← (EStateM.Result.error.inj h).1]
    rfl
  · cases h

theorem code_of_columnOf_error {source : Source} {name : String}
    (h : columnOf source name c = .error e c') : e.code = .invalidRelationPath := by
  unfold columnOf at h
  split at h
  · rw [← (EStateM.Result.error.inj h).1]
    rfl
  · cases h

theorem code_of_follow_error {type : JoinType} {leaf : String} {names : List String}
    {position : RelationPath.Position Source}
    (h : RelationPath.follow backend type leaf names position c = .error e c') :
    e.code = .invalidRelationPath := by
  induction names generalizing c position with
  | nil =>
    rw [RelationPath.follow, attrAt_backend] at h
    exact code_of_columnOf_error h
  | cons name rest ih =>
    rw [RelationPath.follow, bind_eq_error_iff, joinAt_backend] at h
    rcases h with h | ⟨join, d, -, h⟩
    · exact code_of_addJoin_error h
    · exact ih h

theorem code_of_resolve_error {type : JoinType} {limit : Nat} {path : String}
    (h : RelationPath.resolve backend type limit path c = .error e c') :
    e.code = .invalidRelationPath := by
  unfold RelationPath.resolve at h
  cases hr : RelationPath.readWithin limit path with
  | error e₀ =>
    rw [hr, EStateM.Result.error.injEq] at h
    rw [← h.1]
    exact RelationPath.readWithin_failsWith limit path e₀ hr
  | ok p =>
    rw [hr] at h
    dsimp only at h
    cases hf : RelationPath.follow backend type p.leaf p.relations none c with
    | error e₀ d =>
      rw [hf, EStateM.Result.error.injEq] at h
      rw [← h.1]
      exact (code_of_follow_error hf : e₀.code = _)
    | ok a d =>
      rw [hf] at h
      cases h

theorem sizeOf_failsWith (c : Criteria) (a : Operand) :
    FailsWith .notACollection (c.sizeOf a) := by
  unfold sizeOf
  split
  · split
    · exact .ok _
    · exact .error rfl
  · exact .error rfl

theorem readSortKey_failsWith (depth : Nat) (column : String) :
    FailsWith .invalidRelationPath (readSortKey depth column) := by
  unfold readSortKey
  dsimp only
  split
  · exact .error rfl
  · split
    · exact .error rfl
    · exact .ok _

theorem code_of_sortOperand_error {column : String}
    (h : sortOperand column c = .error e c') : e.code = .invalidRelationPath := by
  unfold sortOperand at h
  cases hr : readSortKey c.maxDepth column with
  | error e₀ =>
    rw [hr, EStateM.Result.error.injEq] at h
    rw [← h.1]
    exact readSortKey_failsWith _ _ e₀ hr
  | ok p =>
    obtain ⟨source, d, hd⟩ : ∃ source d, reuseChain p.relations .root c = .ok source d :=
      exists_reuseChain (readSortKey_name_ne hr)
    simp [hr, hd] at h

theorem code_of_sortOperands_error {keys : List SortKey}
    (h : sortOperands keys c = .error e c') : e.code = .invalidRelationPath := by
  induction keys generalizing c with
  | nil => cases h
  | cons key keys ih =>
    rw [sortOperands, bind_eq_error_iff] at h
    rcases h with h | ⟨a, d, -, h⟩
    · exact code_of_sortOperand_error h
    · simp only [bind_eq_error_iff, pure_ne_error, and_false, exists_false, or_false] at h
      exact ih h

theorem finish_failsWith (c : Criteria) (k : Constraint) (page : PageRequest) :
    FailsWith .invalidRelationPath (c.finish k page) := by
  unfold finish
  split
  · exact .error (code_of_sortOperands_error ‹_›)
  · exact .ok _

end Sql.Criteria

section

variable {c : Compiler} {d : Declaration} {input : Input} {s s' : Criteria} {e : QueryError}

theorem Compiler.code_of_locate_error (h : c.locate Criteria.backend d s = .error e s') :
    e.code = .invalidRelationPath := by
  unfold Compiler.locate at h
  split at h
  · exact Criteria.code_of_resolve_error h
  · exact Criteria.code_of_columnOf_error h

theorem Operation.code_of_build_error {ctx : PredicateContext} {op : Operation} {a : Operand}
    (h : op.build Criteria.backend ctx a input s = .error e s') :
    e.code = .invalidFilterValue ∨ e.code = .notACollection := by
  have htarget : FailsWith .notACollection (op.target Criteria.backend a s) := by
    unfold Operation.target
    split
    · exact (Criteria.sizeOf_failsWith s a).mapError fun _ => rfl
    · exact .ok _
  unfold Operation.build at h
  cases ht : op.target Criteria.backend a s with
  | error e₀ =>
    rw [ht, EStateM.Result.error.injEq] at h
    exact .inr (h.1 ▸ htarget e₀ ht)
  | ok a' =>
    cases hc : op.clause ctx input with
    | error e₀ =>
      rw [ht, hc, EStateM.Result.error.injEq] at h
      exact .inl (h.1 ▸ (op.refuses_clause input ctx e₀ hc).1)
    | ok clause =>
      rw [ht, hc] at h
      cases h

/-- **What is tried for a field fails on criteria for its path, its input, or an attribute without
items to count.** -/
theorem Compiler.code_of_attempt_error (h : c.attempt Criteria.backend d input s = .error e s') :
    e.code = .invalidRelationPath ∨ e.code = .invalidFilterValue ∨ e.code = .notACollection := by
  rw [Compiler.attempt, bind_eq_error_iff] at h
  rcases h with h | ⟨a, t, -, h⟩
  · exact .inl (Compiler.code_of_locate_error h)
  · exact .inr (Operation.code_of_build_error h)

/-- The texts of the errors that declarations can cause. -/
def ErrorCode.ofDeclarations : List String := ["S7002", "S7003", "S7004", "S7005"]

theorem ErrorCode.text_mem_ofDeclarations {code : ErrorCode}
    (h : code = .invalidRelationPath ∨ code = .invalidFilterValue ∨ code = .notACollection ∨
      code = .fieldAccess) :
    code.isConfiguration = true ∧ code.text ∈ ErrorCode.ofDeclarations := by
  rcases h with rfl | rfl | rfl | rfl <;> decide

end

/-! ## All errors -/

section

variable {F : Type} {c : Compiler} {t : FilterType F} {object : F} {page : PageRequest}

/-- **A field that cannot be read stops a compilation before it asks the backend for anything.** -/
theorem exists_unreadable (h : ∃ f ∈ t.declarations.fields, ∃ e, f.access object = .error e) :
    ∃ before f after e₀, t.declarations.fields = before ++ f :: after ∧
      (∀ g ∈ before, ∃ input, g.access object = .ok input) ∧ f.access object = .error e₀ ∧
      ∀ (State Attr Join Pred : Type) (b : Backend State Attr Join Pred) (s : State),
        c.compile b t object page s =
          .error ((Field.accessError f.name e₀).withFilter t.name) s := by
  cases ha : t.declarations.active object with
  | error e =>
    obtain ⟨before, f, after, heq, hbefore, e₀, hf, rfl⟩ := Declarations.active_eq_error_iff.1 ha
    exact ⟨before, f, after, e₀, heq, hbefore, hf, fun State Attr Join Pred b s =>
      compile_eq_error_iff.2 (.inl ⟨_, ha, rfl, rfl⟩)⟩
  | ok active =>
    obtain ⟨f, hf, e, he⟩ := h
    obtain ⟨input, hread⟩ := (Declarations.active_eq_ok_iff.1 ha).1 f hf
    rw [Field.read_eq_ok_iff, he] at hread
    cases hread

/-- **If all fields can be read, a compilation fails with the first that fails.** -/
theorem compile_eq_error_iff_attempt {State Attr Join Pred : Type}
    {b : Backend State Attr Join Pred} {s s' : State} {e : QueryError}
    (h : ∀ f ∈ t.declarations.fields, ∃ input, f.access object = .ok input) :
    c.compile b t object page s = .error e s' ↔ ∃ before d input after ps s₁ e₀,
      t.declarations.fields.filterMap (Field.held object) = before ++ (d, input) :: after ∧
      Compiler.eachField (c.attempt b) before s = .ok ps s₁ ∧
      c.attempt b d input s₁ = .error e₀ s' ∧ e = Compiler.place t.name d e₀ := by
  have hactive : t.declarations.active object =
      .ok (t.declarations.fields.filterMap (Field.held object)) := by
    refine Declarations.active_eq_ok_iff.2 ⟨fun f hf => ?_, rfl⟩
    obtain ⟨input, hi⟩ := h f hf
    exact ⟨input, Field.read_eq_ok_iff.2 hi⟩
  rw [compile_eq_error_iff, hactive]
  simp only [reduceCtorEq, false_and, exists_false, false_or, Except.ok.injEq, exists_eq_left',
    Compiler.eachField_eq_error_iff, Prod.exists, exists_and_left]

/-- **Each error of a compilation on criteria is one of configuration.** -/
theorem code_of_compile_error {s s' : Criteria} {e : QueryError}
    (h : c.compile Criteria.backend t object page s = .error e s') :
    e.isConfiguration = true ∧ e.code.text ∈ ErrorCode.ofDeclarations := by
  refine ErrorCode.text_mem_ofDeclarations ?_
  rcases compile_eq_error_iff.1 h with ⟨e₀, ha, rfl, -⟩ | ⟨active, -, hfields⟩
  · obtain ⟨-, f, -, -, -, e₁, -, rfl⟩ := Declarations.active_eq_error_iff.1 ha
    exact .inr (.inr (.inr (Field.accessError_spec f.name e₁).1))
  · obtain ⟨-, field, -, -, ps, u, -, e₀, hattempt, rfl⟩ :=
      Compiler.eachField_eq_error_iff.1 hfields
    exact (Compiler.code_of_attempt_error hattempt).imp_right (Or.imp_right .inl)

end

/-- **Precedence, place and kind of every error.** If a field cannot be read, then the first such
field gives the error, whatever the backend is, and its state stays as it was. Otherwise the error
is that of the first field that holds a value and fails, after those before it, and no other is
tried; code, message and hints stay, and the place is added. On criteria each error is one of
configuration. -/
theorem compile_error {F : Type} (c : Compiler) (t : FilterType F) (object : F)
    (page : PageRequest) :
    ((∃ f ∈ t.declarations.fields, ∃ e, f.access object = .error e) →
      ∃ before f after e₀ e, t.declarations.fields = before ++ f :: after ∧
        (∀ g ∈ before, ∃ input, g.access object = .ok input) ∧ f.access object = .error e₀ ∧
        e = (Field.accessError f.name e₀).withFilter t.name ∧ e.code = .fieldAccess ∧
        e.field = some (if e₀.code = .fieldAccess then e₀.field.getD f.name else f.name) ∧
        ∀ (State Attr Join Pred : Type) (b : Backend State Attr Join Pred) (s : State),
          c.compile b t object page s = .error e s) ∧
    ((∀ f ∈ t.declarations.fields, ∃ input, f.access object = .ok input) →
      ∀ (State Attr Join Pred : Type) (b : Backend State Attr Join Pred) (s s' : State)
        (e : QueryError), c.compile b t object page s = .error e s' ↔
          ∃ before d input after ps s₁ e₀,
            t.declarations.fields.filterMap (Field.held object) = before ++ (d, input) :: after ∧
            Compiler.eachField (c.attempt b) before s = .ok ps s₁ ∧
            c.attempt b d input s₁ = .error e₀ s' ∧
            e = { e₀ with
              field := some (e₀.field.getD d.field)
              filter := some t.name
              operation := some d.operation.name }) ∧
    (∀ (s s' : Criteria) (e : QueryError),
      c.compile Criteria.backend t object page s = .error e s' →
        e.isConfiguration = true ∧ e.code.text ∈ ErrorCode.ofDeclarations) ∧
    ∀ (s : Criteria) (k : Constraint) (page : PageRequest) (e : QueryError),
      s.finish k page = .error e →
        e.isConfiguration = true ∧ e.code.text ∈ ErrorCode.ofDeclarations := by
  refine ⟨fun h => ?_, fun h State Attr Join Pred b s s' e => compile_eq_error_iff_attempt h,
    fun s s' e h => code_of_compile_error h, fun s k page e h => ?_⟩
  · obtain ⟨before, f, after, e₀, heq, hbefore, hf, hcompile⟩ := exists_unreadable h
    obtain ⟨hcode, hfield⟩ := Field.accessError_spec f.name e₀
    exact ⟨before, f, after, e₀, _, heq, hbefore, hf, rfl, hcode, hfield, hcompile⟩
  · exact ErrorCode.text_mem_ofDeclarations (.inl (Criteria.finish_failsWith s k page e h))

/-- A name, and a status that cannot be read of one object and is a list in the other. -/
def faulty : FilterType Bool := ⟨"Person", ⟨[
  ⟨⟨"name", .like, ""⟩, fun _ => .ok (some (.scalar (.text "x")))⟩,
  ⟨⟨"status", .equal, "account.status"⟩, fun readable =>
    if readable then .ok (some (.list [])) else .error (.internal "gone")⟩]⟩⟩

/-- One object of the example fails before any join, the other after the join of its status. -/
theorem compile_error_faulty :
    (∃ e, e.code = .fieldAccess ∧ e.field = some "status" ∧
      ∀ (State Attr Join Pred : Type) (b : Backend State Attr Join Pred) (s : State),
        (Compiler.atEpoch .left).compile b faulty false {} s = .error e s) ∧
    ∃ e s', (Compiler.atEpoch .left).compile Criteria.backend faulty true {} people = .error e s' ∧
      s'.joins.map Join.tableAlias = ["j1"] ∧ e.code = .invalidFilterValue ∧
      e.filter = some "Person" ∧ e.field = some "status" ∧ e.operation = some "EQUAL" ∧
      e.isConfiguration = true := by
  obtain ⟨hunread, -⟩ := compile_error (.atEpoch .left) faulty false {}
  obtain ⟨-, hread, hkind, -⟩ := compile_error (.atEpoch .left) faulty true {}
  have hbroken : ∃ f ∈ faulty.declarations.fields, ∃ e, f.access false = .error e :=
    ⟨_, List.mem_cons_of_mem _ List.mem_cons_self, _, rfl⟩
  have hall : ∀ f ∈ faulty.declarations.fields, ∃ input, f.access true = .ok input := by
    intro f hf
    rcases List.mem_cons.1 hf with rfl | hf
    · exact ⟨_, rfl⟩
    · obtain rfl := List.mem_singleton.1 hf
      exact ⟨_, rfl⟩
  constructor
  · obtain ⟨before, f, after, e₀, e, -, -, -, -, hcode, -, hcompile⟩ := hunread hbroken
    obtain ⟨e₁, s₁, h₁, hcheck⟩ := exists_of_fails
      ((Compiler.atEpoch .left).compile Criteria.backend faulty false {} people)
      (fun e _ => e.field == some "status") (by decide +kernel)
    rw [hcompile, EStateM.Result.error.injEq] at h₁
    obtain ⟨rfl, -⟩ := h₁
    exact ⟨e, hcode, beq_iff_eq.1 hcheck, hcompile⟩
  · obtain ⟨e, s', h, hcheck⟩ := exists_of_fails
      ((Compiler.atEpoch .left).compile Criteria.backend faulty true {} people)
      (fun e s => s.joins.map Join.tableAlias == ["j1"] && e.code == .invalidFilterValue &&
        e.field == some "status" && e.operation == some "EQUAL") (by decide +kernel)
    simp only [Bool.and_eq_true, beq_iff_eq] at hcheck
    obtain ⟨⟨⟨hjoins, hcode⟩, hfield⟩, hop⟩ := hcheck
    obtain ⟨before, d, input, after, ps, s₁, e₀, -, -, -, heq⟩ := (hread hall _ _ _ _ _ _ _ _).1 h
    have hfilter : e.filter = some "Person" := congrArg QueryError.filter heq
    exact ⟨e, s', h, hjoins, hcode, hfilter, hfield, hop, (hkind people s' e h).1⟩

end FilterQuery

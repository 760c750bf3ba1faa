import FilterQuery.Backend.Watched
import FilterQuery.Compiler
import FilterQuery.Proofs.Compile.Failures

/-!
# Backends that simulate each other

A compiler knows a backend by its operations only. If two backends keep a relation between their
states, attributes, joins and predicates, then compilations keep it too.

* `Agree`, `AgreeSize`: results that are related, or errors that are equal; **`Agree.bind`**: calls
  that go on from related results;
* `RelationPath.resolve_eq`, `Compiler.constraint_eq`: parts of a compilation as runs of calls;
  **`Compiler.agree_constraint`**: compilations agree if each field does;
* `Simulation`: relations that each operation keeps; `Simulation.watched`: a backend under watch;
* `Simulation.follow`, `Simulation.resolve`, `Simulation.clause`, `Simulation.build`,
  `Simulation.constrain`, `Simulation.constraint`: the parts of a compilation, one by one;
* **`Simulation.compile`**: a compilation.
-/

namespace FilterQuery

/-! ## Related results -/

section

variable {α β γ δ σ τ : Type}

/-- Both calls succeed with related values and states, or both fail with equal errors. Unless the
agreement is `exact`, one of them may fail whatever the other does. -/
inductive Agree (exact : Prop) (state : σ → τ → Prop) (value : α → β → Prop) :
    EStateM.Result QueryError σ α → EStateM.Result QueryError τ β → Prop
  | ok {a : α} {b : β} {s : σ} {t : τ} (ha : value a b) (hs : state s t) :
      Agree exact state value (.ok a s) (.ok b t)
  | error (e : QueryError) (s : σ) (t : τ) : Agree exact state value (.error e s) (.error e t)
  | left (h : ¬ exact) (e : QueryError) (s : σ) (r : EStateM.Result QueryError τ β) :
      Agree exact state value (.error e s) r
  | right (h : ¬ exact) (r : EStateM.Result QueryError σ α) (e : QueryError) (t : τ) :
      Agree exact state value r (.error e t)

/-- The same for what leaves the state alone. -/
inductive AgreeSize (exact : Prop) (value : α → β → Prop) :
    Except QueryError α → Except QueryError β → Prop
  | ok {a : α} {b : β} (ha : value a b) : AgreeSize exact value (.ok a) (.ok b)
  | error (e : QueryError) : AgreeSize exact value (.error e) (.error e)
  | left (h : ¬ exact) (e : QueryError) (r : Except QueryError β) :
      AgreeSize exact value (.error e) r
  | right (h : ¬ exact) (r : Except QueryError α) (e : QueryError) :
      AgreeSize exact value r (.error e)

variable {exact : Prop} {state : σ → τ → Prop} {value : α → β → Prop} {value' : γ → δ → Prop}

/-- In an exact agreement neither call fails alone. -/
theorem Agree.of_exact {r : EStateM.Result QueryError σ α} {r' : EStateM.Result QueryError τ β}
    (h : Agree True state value r r') :
    (∃ e s t, r = .error e s ∧ r' = .error e t) ∨
      ∃ a s b t, r = .ok a s ∧ r' = .ok b t ∧ value a b ∧ state s t := by
  cases h with
  | ok ha hs => exact .inr ⟨_, _, _, _, rfl, rfl, ha, hs⟩
  | error e s t => exact .inl ⟨e, s, t, rfl, rfl⟩
  | left h | right h => exact absurd trivial h

theorem Agree.adaptExcept {x : EStateM QueryError σ α} {y : EStateM QueryError τ β} {s : σ} {t : τ}
    (h : Agree exact state value (x s) (y t)) (g : QueryError → QueryError) :
    Agree exact state value (x.adaptExcept g s) (y.adaptExcept g t) := by
  unfold EStateM.adaptExcept
  generalize x s = r, y t = r' at h ⊢
  cases h with
  | ok ha hs => exact .ok ha hs
  | error e s t => exact .error (g e) s t
  | left h e s r => exact .left h (g e) s _
  | right h r e t => exact .right h _ (g e) t

/-- **Related calls that go on from related results are related.** -/
theorem Agree.bind {x : EStateM QueryError σ α} {y : EStateM QueryError τ β}
    {f : α → EStateM QueryError σ γ} {f' : β → EStateM QueryError τ δ} {s : σ} {t : τ}
    (h : Agree exact state value (x s) (y t))
    (hf : ∀ a b s t, value a b → state s t → Agree exact state value' (f a s) (f' b t)) :
    Agree exact state value' ((x >>= f) s) ((y >>= f') t) := by
  change Agree exact state value' (EStateM.bind x f s) (EStateM.bind y f' t)
  unfold EStateM.bind
  generalize x s = r, y t = r' at h ⊢
  cases h with
  | ok ha hs => exact hf _ _ _ _ ha hs
  | error e s t => exact .error e s t
  | left h e s r => exact .left h e s _
  | right h r e t => exact .right h _ e t

theorem AgreeSize.mapError {x : Except QueryError α} {y : Except QueryError β}
    (h : AgreeSize exact value x y) (g : QueryError → QueryError) :
    AgreeSize exact value (x.mapError g) (y.mapError g) := by
  cases h with
  | ok ha => exact .ok ha
  | error e => exact .error _
  | left h e r => exact .left h _ _
  | right h r e => exact .right h _ _

end

/-! ## Parts of a compilation -/

section

variable {State Attr Join Pred : Type} {b : Backend State Attr Join Pred}

theorem RelationPath.resolve_eq {type : JoinType} {limit : Nat} {path : String} {p : DottedPath}
    (h : readWithin limit path = .ok p) : resolve b type limit path =
      EStateM.adaptExcept (·.withRelationPath path) (follow b type p.leaf p.relations none) := by
  funext s
  unfold resolve EStateM.adaptExcept
  rw [h]
  dsimp only
  cases follow b type p.leaf p.relations none s <;> rfl

theorem Compiler.constraint_eq {F : Type} {c : Compiler} {t : FilterType F} {object : F}
    {fields : List (Declaration × Input)} (h : t.declarations.active object = .ok fields) :
    c.constraint b t object =
      eachField (c.constrain b t.name) fields >>= fun ps s => .ok (conjunction b s ps) s := by
  funext s
  change _ = EStateM.bind _ _ s
  unfold constraint assemble EStateM.bind
  rw [h]
  dsimp only
  cases eachField (c.constrain b t.name) fields s <;> rfl

variable {State' Attr' Join' Pred' : Type} {b' : Backend State' Attr' Join' Pred'} {exact : Prop}
  {state : State → State' → Prop} {pred : Pred → Pred' → Prop} {s : State} {s' : State'}

namespace Compiler

theorem agree_eachField {step : Declaration → Input → EStateM QueryError State Pred}
    {step' : Declaration → Input → EStateM QueryError State' Pred'}
    (hstep : ∀ d input s s', state s s' → Agree exact state pred (step d input s) (step' d input s'))
    (fields : List (Declaration × Input)) (hs : state s s') :
    Agree exact state (List.Forall₂ pred) (eachField step fields s) (eachField step' fields s') := by
  induction fields generalizing s s' with
  | nil => exact .ok .nil hs
  | cons field rest ih =>
    refine (hstep field.1 field.2 s s' hs).bind fun p p' s s' hp hs => ?_
    exact (ih hs).bind fun ps ps' s s' hps hs => .ok (.cons hp hps) hs

/-- **Compilations agree if each field agrees**, and so do the conjunctions. -/
theorem agree_constraint {F : Type} {c : Compiler} {t : FilterType F} (object : F)
    (hfield : ∀ d input s s', state s s' → Agree exact state pred (c.constrain b t.name d input s)
      (c.constrain b' t.name d input s'))
    (hand : ∀ {s s' ps ps'}, state s s' → List.Forall₂ pred ps ps' →
      pred (conjunction b s ps) (conjunction b' s' ps')) (hs : state s s') :
    Agree exact state pred (c.constraint b t object s) (c.constraint b' t object s') := by
  cases ha : t.declarations.active object with
  | error e =>
    unfold constraint assemble
    rw [ha]
    exact .error _ s s'
  | ok fields =>
    rw [constraint_eq ha, constraint_eq ha]
    exact (agree_eachField hfield fields hs).bind fun ps ps' s s' hps hs => .ok (hand hs hps) hs

end Compiler

end

/-! ## Simulations -/

/-- Relations between two backends that each operation keeps: both succeed with related results, or
both fail with equal errors, or, unless the simulation is `exact`, one of them fails. -/
structure Simulation {State Attr Join Pred State' Attr' Join' Pred' : Type} (exact : Prop)
    (b : Backend State Attr Join Pred) (b' : Backend State' Attr' Join' Pred') where
  state : State → State' → Prop
  attr : Attr → Attr' → Prop
  join : Join → Join' → Prop
  pred : Pred → Pred' → Prop
  rootAttr : ∀ {s s'} name, state s s' →
    Agree exact state attr (b.rootAttr name s) (b'.rootAttr name s')
  joinAttr : ∀ {s s' j j'} name, state s s' → join j j' →
    Agree exact state attr (b.joinAttr j name s) (b'.joinAttr j' name s')
  joinRoot : ∀ {s s'} name type, state s s' →
    Agree exact state join (b.joinRoot name type s) (b'.joinRoot name type s')
  joinFrom : ∀ {s s' j j'} name type, state s s' → join j j' →
    Agree exact state join (b.joinFrom j name type s) (b'.joinFrom j' name type s')
  lower : ∀ {s s' a a'}, state s s' → attr a a' → attr (b.lower s a) (b'.lower s' a')
  asInstant : ∀ {s s' a a'}, state s s' → attr a a' → attr (b.asInstant s a) (b'.asInstant s' a')
  size : ∀ {s s' a a'}, state s s' → attr a a' → AgreeSize exact attr (b.size s a) (b'.size s' a')
  test : ∀ {s s' a a'} t, state s s' → attr a a' →
    pred (b.test a t s).1 (b'.test a' t s').1 ∧ state (b.test a t s).2 (b'.test a' t s').2
  all : ∀ {s s' ps ps'}, state s s' → List.Forall₂ pred ps ps' → pred (b.all s ps) (b'.all s' ps')
  any : ∀ {s s' ps ps'}, state s s' → List.Forall₂ pred ps ps' → pred (b.any s ps) (b'.any s' ps')
  neg : ∀ {s s' p p'}, state s s' → pred p p' → pred (b.neg s p) (b'.neg s' p')
  always : ∀ {s s'}, state s s' → pred (b.always s) (b'.always s')

namespace Simulation

variable {State Attr Join Pred State' Attr' Join' Pred' : Type} {exact : Prop}
  {b : Backend State Attr Join Pred} {b' : Backend State' Attr' Join' Pred'}
  (S : Simulation exact b b') {s : State} {s' : State'}

/-! ## Relation paths -/

/-- Both places are the root, or related joins. -/
abbrev position : RelationPath.Position Join → RelationPath.Position Join' → Prop :=
  Option.Rel S.join

theorem joinAt {p : RelationPath.Position Join} {p' : RelationPath.Position Join'} (type : JoinType)
    (name : String) (hs : S.state s s') (hp : S.position p p') :
    Agree exact S.state S.join (RelationPath.joinAt b type name p s)
      (RelationPath.joinAt b' type name p' s') := by
  cases hp with
  | none => exact S.joinRoot name type hs
  | some hj => exact S.joinFrom name type hs hj

theorem attrAt {p : RelationPath.Position Join} {p' : RelationPath.Position Join'} (name : String)
    (hs : S.state s s') (hp : S.position p p') :
    Agree exact S.state S.attr (RelationPath.attrAt b name p s)
      (RelationPath.attrAt b' name p' s') := by
  cases hp with
  | none => exact S.rootAttr name hs
  | some hj => exact S.joinAttr name hs hj

theorem follow {p : RelationPath.Position Join} {p' : RelationPath.Position Join'} (type : JoinType)
    (leaf : String) (names : List String) (hs : S.state s s') (hp : S.position p p') :
    Agree exact S.state S.attr (RelationPath.follow b type leaf names p s)
      (RelationPath.follow b' type leaf names p' s') := by
  induction names generalizing p p' s s' with
  | nil => exact S.attrAt leaf hs hp
  | cons name rest ih =>
    exact (S.joinAt type name hs hp).bind fun j j' s s' hj hs => ih hs (.some hj)

theorem resolve (type : JoinType) (limit : Nat) (path : String) (hs : S.state s s') :
    Agree exact S.state S.attr (RelationPath.resolve b type limit path s)
      (RelationPath.resolve b' type limit path s') := by
  cases hp : RelationPath.readWithin limit path with
  | error e =>
    unfold RelationPath.resolve
    rw [hp]
    exact .error e s s'
  | ok p =>
    rw [RelationPath.resolve_eq hp, RelationPath.resolve_eq hp]
    exact (S.follow type p.leaf p.relations hs .none).adaptExcept _

theorem locate (c : Compiler) (d : Declaration) (hs : S.state s s') :
    Agree exact S.state S.attr (c.locate b d s) (c.locate b' d s') := by
  unfold Compiler.locate
  split
  · exact S.resolve _ _ _ hs
  · exact S.rootAttr _ hs

/-! ## Predicates -/

variable {a : Attr} {a' : Attr'}

theorem view (view : View) (hs : S.state s s') (ha : S.attr a a') :
    S.attr (view.of b s a) (view.of b' s' a') := by
  cases view with
  | plain => exact ha
  | lower => exact S.lower hs ha
  | instant => exact S.asInstant hs ha

theorem tests (ts : List Test) (hs : S.state s s') (ha : S.attr a a') :
    List.Forall₂ S.pred (b.tests a ts s).1 (b'.tests a' ts s').1 ∧
      S.state (b.tests a ts s).2 (b'.tests a' ts s').2 := by
  induction ts generalizing s s' with
  | nil => exact ⟨.nil, hs⟩
  | cons t ts ih =>
    obtain ⟨hp, hs⟩ := S.test t hs ha
    obtain ⟨hps, hs⟩ := ih hs
    exact ⟨.cons hp hps, hs⟩

theorem shape (shape : Shape) (hs : S.state s s') (ha : S.attr a a') :
    S.pred (shape.build b a s).1 (shape.build b' a' s').1 ∧
      S.state (shape.build b a s).2 (shape.build b' a' s').2 := by
  cases shape with
  | always => exact ⟨S.always hs, hs⟩
  | passes t => exact S.test t hs ha
  | fails t =>
    obtain ⟨hp, hs⟩ := S.test t hs ha
    exact ⟨S.neg hs hp, hs⟩
  | both t u =>
    obtain ⟨hps, hs⟩ := S.tests [t, u] hs ha
    exact ⟨S.all hs hps, hs⟩
  | either t u =>
    obtain ⟨hps, hs⟩ := S.tests [t, u] hs ha
    exact ⟨S.any hs hps, hs⟩

theorem clause (clause : Clause) (hs : S.state s s') (ha : S.attr a a') :
    S.pred (clause.build b a s).1 (clause.build b' a' s').1 ∧
      S.state (clause.build b a s).2 (clause.build b' a' s').2 :=
  S.shape clause.shape hs (S.view clause.view hs ha)

theorem target (op : Operation) (hs : S.state s s') (ha : S.attr a a') :
    AgreeSize exact S.attr (op.target b a s) (op.target b' a' s') := by
  unfold Operation.target
  split
  · exact (S.size hs ha).mapError _
  · exact .ok ha

/-- **Each operator keeps the relations.** -/
theorem build (ctx : PredicateContext) (op : Operation) (input : Input) (hs : S.state s s')
    (ha : S.attr a a') : Agree exact S.state S.pred (op.build b ctx a input s)
      (op.build b' ctx a' input s') := by
  have htarget := S.target op hs ha
  unfold Operation.build
  generalize op.target b a s = r, op.target b' a' s' = r' at htarget ⊢
  cases htarget with
  | error e => exact .error e s s'
  | left h e r => exact .left h e s _
  | right h r e => exact .right h _ e s'
  | ok ha =>
    cases op.clause ctx input with
    | error e => exact .error e s s'
    | ok clause =>
      obtain ⟨hp, hs⟩ := S.clause clause hs ha
      exact .ok hp hs

/-! ## Compilations -/

theorem constrain (c : Compiler) (filter : String) (d : Declaration) (input : Input)
    (hs : S.state s s') : Agree exact S.state S.pred (c.constrain b filter d input s)
      (c.constrain b' filter d input s') := by
  have hattempt : Agree exact S.state S.pred (c.attempt b d input s) (c.attempt b' d input s') :=
    (S.locate c d hs).bind fun a a' s s' ha hs => S.build c.context d.operation input hs ha
  rw [Compiler.constrain_eq, Compiler.constrain_eq]
  exact hattempt.adaptExcept _

theorem conjunction {ps : List Pred} {ps' : List Pred'} (hs : S.state s s')
    (hps : List.Forall₂ S.pred ps ps') :
    S.pred (Compiler.conjunction b s ps) (Compiler.conjunction b' s' ps') := by
  cases hps with
  | nil => exact S.always hs
  | cons hp hps => exact S.all hs (.cons hp hps)

theorem constraint {F : Type} (c : Compiler) (t : FilterType F) (object : F) (hs : S.state s s') :
    Agree exact S.state S.pred (c.constraint b t object s) (c.constraint b' t object s') :=
  Compiler.agree_constraint object (fun d input _ _ hs => S.constrain c t.name d input hs)
    (fun hs hps => S.conjunction hs hps) hs

/-- **A compilation keeps the relations.** -/
theorem compile {F : Type} (c : Compiler) (t : FilterType F) (object : F) (page : PageRequest)
    (hs : S.state s s') :
    Agree exact S.state (fun r r' => S.pred r.constraint r'.constraint ∧ r.page = r'.page)
      (c.compile b t object page s) (c.compile b' t object page s') :=
  (S.constraint c t object hs).bind fun _ _ _ _ hp hs => .ok ⟨hp, rfl⟩ hs

/-! ## A backend under watch -/

theorem agree_watch {Note α : Type} {notes : Bool → List Note} {x : EStateM QueryError State α}
    {w : Watched State Note} (hs : s = w.1) :
    Agree True (fun s w => s = w.1) Eq (x s) (watch notes x w) := by
  subst hs
  unfold watch
  cases x w.1 with
  | ok a t => exact .ok rfl rfl
  | error e t => exact .error e _ _

/-- **A backend under watch answers as it does alone.** -/
def watched {Note : Type} (b : Backend State Attr Join Pred)
    (notes : Call Attr Join → Bool → List Note) : Simulation True b (b.watched notes) where
  state := fun s w => s = w.1
  attr := Eq
  join := Eq
  pred := Eq
  rootAttr := fun _ hs => agree_watch hs
  joinAttr := by
    rintro s w j _ name hs rfl
    exact agree_watch hs
  joinRoot := fun _ _ hs => agree_watch hs
  joinFrom := by
    rintro s w j _ name type hs rfl
    exact agree_watch hs
  lower := by
    rintro s w a _ rfl rfl
    rfl
  asInstant := by
    rintro s w a _ rfl rfl
    rfl
  size := by
    rintro s w a _ rfl rfl
    change AgreeSize True Eq (b.size w.1 a) (b.size w.1 a)
    cases b.size w.1 a with
    | ok a' => exact .ok rfl
    | error e => exact .error e
  test := by
    rintro s w a _ t rfl rfl
    exact ⟨rfl, rfl⟩
  all := by
    rintro s w ps ps' rfl h
    rw [List.forall₂_eq_eq_eq] at h
    exact congrArg _ h
  any := by
    rintro s w ps ps' rfl h
    rw [List.forall₂_eq_eq_eq] at h
    exact congrArg _ h
  neg := by
    rintro s w p _ rfl rfl
    rfl
  always := by
    rintro s w rfl
    rfl

end Simulation

end FilterQuery

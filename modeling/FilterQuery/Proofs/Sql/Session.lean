import FilterQuery.Proofs.Sql.Growth

/-!
# Criteria in use

Callers ask criteria for attributes, joins and sort keys in any order, and go on after a refusal.
They name joined tables by what an earlier call has handed out.

* `Request`, `Response`, `Criteria.serve`: a call and what it hands out;
* `Session`, `Session.Step`, `Session.Steps`: criteria with all that was handed out;
* `Criteria.serve_table`, `Criteria.serve_error`: a join adds one entry, a refusal none;
* `Session.Sound`, **`Session.Steps.sound`**: the invariant of a session;
* `Session.JoinTable`, **`joinTable_of_steps`**: what callers may rely on, whatever they ask for.
-/

namespace FilterQuery

section

variable {ε σ α β : Type} {x : EStateM ε σ α} {f : α → β} {s s' : σ}

theorem map_eq_ok_iff {b : β} : (f <$> x) s = .ok b s' ↔ ∃ a, x s = .ok a s' ∧ b = f a := by
  change EStateM.map f x s = .ok b s' ↔ _
  unfold EStateM.map
  cases x s with
  | ok a t => simp [and_comm, eq_comm]
  | error e t => simp

theorem map_eq_error_iff {e : ε} : (f <$> x) s = .error e s' ↔ x s = .error e s' := by
  change EStateM.map f x s = .error e s' ↔ _
  unfold EStateM.map
  cases x s <;> simp

end

end FilterQuery

namespace FilterQuery.Sql

/-- A call on criteria. -/
inductive Request where
  | rootAttr (name : String)
  | joinAttr (join : Source) (name : String)
  | joinRoot (name : String) (type : JoinType)
  | joinFrom (parent : Source) (name : String) (type : JoinType)
  | sortKey (column : String)
deriving DecidableEq, Repr

/-- What a call hands out. -/
inductive Response where
  | table (source : Source)
  | column (a : Operand)
deriving DecidableEq, Repr

/-- The call names no table but such as were handed out. -/
def Request.Within (given : List Response) : Request → Prop
  | joinAttr join _ => .table join ∈ given
  | joinFrom parent _ _ => .table parent ∈ given
  | rootAttr _ | joinRoot _ _ | sortKey _ => True

instance (given : List Response) (r : Request) : Decidable (r.Within given) := by
  cases r <;> unfold Request.Within <;> infer_instance

/-- What is handed out belongs to the query. -/
def Response.Known (js : List Join) : Response → Prop
  | table source => source ∈ sources js
  | column a => ∃ source ∈ sources js, ∃ name, a = .column source.tableAlias name

theorem tableAlias_mem {js : List Join} {source : Source} (h : source ∈ sources js) :
    source.tableAlias ∈ rootAlias :: js.map Join.tableAlias := by
  have hmem : source.tableAlias ∈ (sources js).map Source.tableAlias := List.mem_map_of_mem h
  rw [sources, List.map_cons, List.map_map] at hmem
  exact hmem

theorem Response.Known.grown {c c' : Criteria} {x : Response} (h : x.Known c.joins)
    (hc : Criteria.Grown c c') : x.Known c'.joins := by
  cases x with
  | table source => exact hc.source_mem h
  | column a =>
    obtain ⟨source, hs, name, rfl⟩ := h
    exact ⟨source, hc.source_mem hs, name, rfl⟩

namespace Criteria

/-- The answer to a call. -/
def serve : Request → EStateM QueryError Criteria Response
  | .rootAttr name => .column <$> backend.rootAttr name
  | .joinAttr join name => .column <$> backend.joinAttr join name
  | .joinRoot name type => .table <$> backend.joinRoot name type
  | .joinFrom parent name type => .table <$> backend.joinFrom parent name type
  | .sortKey column => .column <$> sortOperand column

variable {c c' : Criteria} {r : Request}

theorem addJoin_error {parent : Source} {name : String} {type : JoinType} {e : QueryError}
    (h : addJoin parent name type c = .error e c') : c' = c := by
  unfold addJoin at h
  split at h
  · exact (EStateM.Result.error.inj h).2.symm
  · cases h

theorem columnOf_error {source : Source} {name : String} {e : QueryError}
    (h : columnOf source name c = .error e c') : c' = c := by
  unfold columnOf at h
  split at h
  · exact (EStateM.Result.error.inj h).2.symm
  · cases h

/-- **A refused call leaves the criteria alone.** -/
theorem serve_error {e : QueryError} (h : serve r c = .error e c') : c' = c := by
  cases r with
  | rootAttr | joinAttr => exact columnOf_error (map_eq_error_iff.1 h)
  | joinRoot | joinFrom => exact addJoin_error (map_eq_error_iff.1 h)
  | sortKey => exact sortOperand_error (map_eq_error_iff.1 h)

/-- **A call that hands out a table adds one join**, which leads to that table. -/
theorem serve_table {source : Source} (h : serve r c = .ok (.table source) c') :
    ∃ j, c' = c.withJoins [j] ∧ source = j.source := by
  cases r with
  | joinRoot | joinFrom =>
    obtain ⟨_, hj, ⟨⟩⟩ := map_eq_ok_iff.1 h
    obtain ⟨-, hs, hc⟩ := addJoin_eq_ok_iff.1 hj
    exact ⟨_, hc, hs⟩
  | rootAttr | joinAttr | sortKey =>
    obtain ⟨_, -, e⟩ := map_eq_ok_iff.1 h
    cases e

theorem known_columnOf {source : Source} {name : String} {a : Operand}
    (mem : source ∈ sources c.joins) (h : columnOf source name c = .ok a c') :
    Grown c c' ∧ (Response.column a).Known c'.joins := by
  obtain ⟨-, rfl, rfl⟩ := columnOf_eq_ok_iff.1 h
  exact ⟨.refl, source, mem, name, rfl⟩

theorem grown_serve {given : List Response} {x : Response} (within : r.Within given)
    (known : ∀ y ∈ given, y.Known c.joins) (h : serve r c = .ok x c') :
    Grown c c' ∧ x.Known c'.joins := by
  cases r with
  | rootAttr name =>
    obtain ⟨a, ha, rfl⟩ := map_eq_ok_iff.1 h
    exact known_columnOf List.mem_cons_self ha
  | joinAttr join name =>
    obtain ⟨a, ha, rfl⟩ := map_eq_ok_iff.1 h
    exact known_columnOf (known _ within) ha
  | joinRoot name type =>
    obtain ⟨source, hs, rfl⟩ := map_eq_ok_iff.1 h
    exact grown_addJoin List.mem_cons_self hs
  | joinFrom parent name type =>
    obtain ⟨source, hs, rfl⟩ := map_eq_ok_iff.1 h
    exact grown_addJoin (known _ within) hs
  | sortKey column =>
    obtain ⟨a, ha, rfl⟩ := map_eq_ok_iff.1 h
    exact grown_sortOperand ha

end Criteria

/-! ## Sessions -/

/-- Criteria in use, and all that was handed out. -/
structure Session where
  criteria : Criteria
  given : List Response := []

namespace Session

/-- The session after a call. A refused call hands out nothing. -/
def next (s : Session) (r : Request) : Session :=
  match s.criteria.serve r with
  | .ok x c => ⟨c, s.given ++ [x]⟩
  | .error _ c => ⟨c, s.given⟩

/-- One call. -/
inductive Step : Session → Session → Prop
  | call (s : Session) (r : Request) (within : r.Within s.given) : Step s (s.next r)

/-- Any number of calls. -/
abbrev Steps : Session → Session → Prop := Relation.ReflTransGen Step

/-- The joins of a session start from tables that were there, and what it handed out is known. -/
structure Sound (c : Criteria) (s : Session) : Prop where
  grown : Criteria.Grown c s.criteria
  known : ∀ x ∈ s.given, x.Known s.criteria.joins

variable {c : Criteria} {s s' : Session}

theorem next_cases (s : Session) (r : Request) :
    (∃ x c, s.criteria.serve r = .ok x c ∧ s.next r = ⟨c, s.given ++ [x]⟩) ∨
      ∃ e, s.criteria.serve r = .error e s.criteria ∧ s.next r = s := by
  unfold next
  cases h : s.criteria.serve r with
  | ok x c => exact .inl ⟨x, c, rfl, rfl⟩
  | error e c =>
    obtain rfl := Criteria.serve_error h
    exact .inr ⟨e, rfl, rfl⟩

theorem Sound.next (h : Sound c s) {r : Request} (within : r.Within s.given) :
    Sound c (s.next r) := by
  rcases next_cases s r with ⟨x, d, hx, hs⟩ | ⟨e, -, hs⟩
  · obtain ⟨hd, hknown⟩ := Criteria.grown_serve within h.known hx
    rw [hs]
    refine ⟨h.grown.trans hd, fun y hy => ?_⟩
    rcases List.mem_append.1 hy with hy | hy
    · exact (h.known y hy).grown hd
    · rw [List.mem_singleton.1 hy]
      exact hknown
  · rw [hs]
    exact h

/-- **Calls keep a session sound.** -/
theorem Steps.sound (h : Steps s s') (hs : Sound c s) : Sound c s' := by
  induction h with
  | refl => exact hs
  | tail _ step ih =>
    cases step with
    | call r within => exact ih.next within

theorem Steps.prefix_joins (h : Steps s s') (hs : Sound c s) :
    s.criteria.joins <+: s'.criteria.joins := by
  induction h with
  | refl => exact List.prefix_refl _
  | @tail d _ hd step ih =>
    cases step with
    | call r within =>
      refine ih.trans ?_
      rcases next_cases d r with ⟨x, e, hx, hnext⟩ | ⟨e, -, hnext⟩
      · rw [hnext]
        exact (Criteria.grown_serve within (Steps.sound hd hs).known hx).1.prefix_joins
      · exact ⟨[], by rw [hnext, List.append_nil]⟩

/-- What callers may rely on, having asked `c` for what a session handed out. -/
structure JoinTable (c : Criteria) (s : Session) : Prop where
  /-- The table, the dialect and all that is registered stay. -/
  settings : s.criteria = c.withJoins s.criteria.joins
  entries : ∀ k j, s.criteria.joins[k]? = some j → Entry c s.criteria.joins k j
  /-- No two tables have one alias. -/
  aliases : (rootAlias :: s.criteria.joins.map Join.tableAlias).Nodup
  /-- Columns belong to tables of the query. -/
  columns : ∀ a, .column a ∈ s.given → ∃ qualifier name, a = .column qualifier name ∧
    qualifier ∈ rootAlias :: s.criteria.joins.map Join.tableAlias
  /-- Later calls leave the entries alone. -/
  later : ∀ s', Steps s s' → s.criteria.joins <+: s'.criteria.joins
  /-- A call that hands out a table adds one entry. -/
  joined : ∀ r source d, r.Within s.given → s.criteria.serve r = .ok (.table source) d →
    ∃ j, d = s.criteria.withJoins [j] ∧ source = j.source
  /-- A refused call adds none. -/
  refused : ∀ r e d, r.Within s.given → s.criteria.serve r = .error e d → d = s.criteria

end Session

/-- **The join table of criteria in use** is sound, whatever callers ask for and in whichever
order. -/
theorem joinTable_of_steps {c : Criteria} (fresh : c.joins = []) {s : Session}
    (h : Session.Steps ⟨c, []⟩ s) : s.JoinTable c := by
  have hs : Session.Sound c s := h.sound ⟨.refl, fun x hx => absurd hx List.not_mem_nil⟩
  have hn : Numbered s.criteria.joins := hs.grown.numbered (fresh ▸ .nil)
  constructor
  case settings =>
    obtain ⟨js, hjs⟩ := hs.grown.exists_withJoins
    rw [hjs, Criteria.joins_withJoins, fresh, List.nil_append]
  case entries => exact hs.grown.entry fresh
  case aliases => exact List.nodup_cons.2 ⟨hn.rootAlias_notMem, hn.nodup_alias⟩
  case columns =>
    intro a ha
    obtain ⟨source, hsource, name, rfl⟩ := hs.known _ ha
    exact ⟨source.tableAlias, name, rfl, tableAlias_mem hsource⟩
  case later => exact fun s' hs' => hs'.prefix_joins hs
  case joined => exact fun r source d _ hd => Criteria.serve_table hd
  case refused => exact fun r e d _ hd => Criteria.serve_error hd

/-- A registered relation, a join from it, a refused join, and a sort key that takes the first join
and adds one. -/
theorem joinTable_of_steps_accounts : ∃ (c : Criteria) (s : Session), c.joins = [] ∧
    Session.Steps ⟨c, []⟩ s ∧
    s.criteria.joins.map (fun j => (j.parentAlias, j.path, j.tableAlias, j.table, j.on)) =
      [("t0", "account", "j1", "accounts", "t0.account_ref = j1.uuid"),
        ("j1", "account.owner", "j2", "owner", "j1.owner_id = j2.id"),
        ("j1", "account.roles", "j3", "roles", "j1.roles_id = j3.id")] ∧
    s.given = [.table ⟨"j1", "account"⟩, .table ⟨"j2", "account.owner"⟩,
      .column (.column "j3" "name")] ∧
    s.JoinTable c := by
  let c : Criteria := Criteria.withRelation { table := "people" } "account"
    ⟨"account", .manyToOne, "accounts", ["account_ref"], ["uuid"]⟩
  let s₁ : Session := Session.next ⟨c, []⟩ (.joinRoot "account" .inner)
  let s₂ : Session := s₁.next (.joinFrom ⟨"j1", "account"⟩ "owner" .left)
  let s₃ : Session := s₂.next (.joinFrom ⟨"j2", "account.owner"⟩ "" .left)
  let s₄ : Session := s₃.next (.sortKey "account.roles.name")
  have h₁ : Session.Step ⟨c, []⟩ s₁ := .call ⟨c, []⟩ (.joinRoot "account" .inner) trivial
  have h₂ : Session.Step s₁ s₂ :=
    .call s₁ (.joinFrom ⟨"j1", "account"⟩ "owner" .left) (by decide +kernel)
  have h₃ : Session.Step s₂ s₃ :=
    .call s₂ (.joinFrom ⟨"j2", "account.owner"⟩ "" .left) (by decide +kernel)
  have h₄ : Session.Step s₃ s₄ := .call s₃ (.sortKey "account.roles.name") trivial
  have h : Session.Steps ⟨c, []⟩ s₄ := .tail (.tail (.tail (.single h₁) h₂) h₃) h₄
  exact ⟨c, s₄, rfl, h, by decide +kernel, by decide +kernel, joinTable_of_steps rfl h⟩

end FilterQuery.Sql

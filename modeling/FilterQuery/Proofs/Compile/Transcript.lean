import FilterQuery.Proofs.Compile.Simulation

/-!
# Criteria and a transcript of calls

A backend that only writes down its calls is simulated by criteria. So what a compilation makes of
criteria can be read off the calls.

* `Transcript.Mark`, `Transcript.Sketch`: attributes and predicates, by the calls that gave them;
* `Transcript.backend`: the backend that writes down its calls and may refuse any of them;
* `Mark.operand`, `Sketch.rebuild`, `Transcript.asked`: marks, sketches and join calls in terms of
  criteria;
* `Transcript.Matches`: joins as they were asked for; **`Transcript.ofCriteria`**: criteria simulate
  the backend;
* **`compile_simulated`**: a compilation depends on its backend only by the backend's operations.
-/

namespace FilterQuery

open Sql

/-! ## The backend -/

theorem Sql.Criteria.sizeOf_eq_ok {c : Criteria} {a a' : Operand} (h : c.sizeOf a = .ok a') :
    a' = .size a := by
  unfold Criteria.sizeOf at h
  split at h
  · split at h
    · exact (Except.ok.inj h).symm
    · cases h
  · cases h

namespace Transcript

/-- An attribute, by the call that gave it. Joins go by their numbers, in the order of the calls
that gave them. -/
inductive Mark where
  /-- A column of the root, or of a join. -/
  | column (join : Option Nat) (name : String)
  | lower (inner : Mark)
  | instant (inner : Mark)
  | size (inner : Mark)
deriving DecidableEq, Repr

/-- A predicate, as it was put together. -/
inductive Sketch where
  | test (a : Mark) (t : Test)
  | all (ps : List Sketch)
  | any (ps : List Sketch)
  | neg (p : Sketch)
deriving Repr

/-- Calls in order. -/
abbrev Calls : Type := List (Call Mark Nat)

/-- The call asks for a join. -/
def isJoin : Call Mark Nat → Bool
  | .joinRoot _ _ => true
  | .joinFrom _ _ _ => true
  | _ => false

/-- What a backend refuses, by the calls that it has answered. -/
structure Refusals where
  call : Calls → Call Mark Nat → Option QueryError
  size : Calls → Mark → Option QueryError

/-- Write down a call, and answer it unless it is refused. -/
def record {α : Type} (refuse : Refusals) (call : Call Mark Nat) (answer : Calls → α) :
    EStateM QueryError Calls α := fun calls =>
  match refuse.call calls call with
  | some e => .error e (calls ++ [call])
  | none => .ok (answer calls) (calls ++ [call])

/-- A backend that writes down its calls. -/
def backend (refuse : Refusals) : Backend Calls Mark Nat Sketch where
  rootAttr := fun name => record refuse (.rootAttr name) fun _ => .column none name
  joinAttr := fun join name => record refuse (.joinAttr join name) fun _ => .column (some join) name
  joinRoot := fun name type => record refuse (.joinRoot name type) (List.countP isJoin)
  joinFrom := fun parent name type =>
    record refuse (.joinFrom parent name type) (List.countP isJoin)
  lower := fun _ a => .lower a
  asInstant := fun _ a => .instant a
  size := fun calls a =>
    match refuse.size calls a with
    | some e => .error e
    | none => .ok (.size a)
  test := fun a t calls => (.test a t, calls ++ [.test a t])
  all := fun _ ps => .all ps
  any := fun _ ps => .any ps
  neg := fun _ p => .neg p

/-! ## In terms of criteria -/

/-- The alias of the root, or of a join, if `k` joins were there before the first call. -/
def aliasOf (k : Nat) : Option Nat → String
  | none => rootAlias
  | some n => joinAlias (k + n + 1)

/-- The column that criteria give for the same call. -/
def Mark.operand (k : Nat) : Mark → Operand
  | column join name => .column (aliasOf k join) name
  | lower a => .lower (a.operand k)
  | instant a => .instant (a.operand k)
  | size a => .size (a.operand k)

mutual

/-- The constraint that is put together in the same way. -/
def Sketch.rebuild (k : Nat) : Sketch → Constraint
  | test a t => .test (a.operand k) t
  | all ps => .and (rebuildAll k ps)
  | any ps => .or (rebuildAll k ps)
  | neg p => .neg (p.rebuild k)

/-- The constraints that are put together in the same way. -/
def Sketch.rebuildAll (k : Nat) : List Sketch → List Constraint
  | [] => []
  | p :: ps => p.rebuild k :: rebuildAll k ps

end

/-- What a join call asks for: the alias of the parent, the relation and the join type. -/
def asked (k : Nat) : Call Mark Nat → Option (String × String × JoinType)
  | .joinRoot name type => some (rootAlias, name, type)
  | .joinFrom parent name type => some (joinAlias (k + parent + 1), name, type)
  | _ => none

theorem rebuildAll_eq {k : Nat} {cs : List Constraint} {ps : List Sketch}
    (h : List.Forall₂ (fun c p => c = Sketch.rebuild k p) cs ps) : cs = Sketch.rebuildAll k ps := by
  induction h with
  | nil => rfl
  | cons hc _ ih => rw [Sketch.rebuildAll, ← hc, ← ih]

theorem length_filterMap_asked (k : Nat) (calls : Calls) :
    (calls.filterMap (asked k)).length = calls.countP isJoin := by
  rw [List.length_filterMap_eq_countP]
  refine List.countP_congr fun call _ => ?_
  cases call <;> rfl

/-! ## Criteria simulate the backend -/

/-- The joins that were added are those that were asked for, in order. Their aliases count up. -/
structure Matches (s c : Criteria) (calls : Calls) (added : List Join) : Prop where
  settings : c = s.withJoins added
  asked : added.map (fun j => (j.parentAlias, j.name, j.joinType)) =
    calls.filterMap (asked s.joins.length)
  aliases : added.map Join.tableAlias =
    (List.range' (s.joins.length + 1) added.length).map joinAlias

namespace Matches

theorem nil (s : Criteria) : Matches s s [] [] := ⟨(Criteria.withJoins_nil s).symm, rfl, rfl⟩

variable {s c : Criteria} {calls : Calls} {added : List Join} {call : Call Mark Nat}

theorem length_eq (h : Matches s c calls added) : added.length = calls.countP isJoin := by
  rw [← length_filterMap_asked s.joins.length, ← h.asked, List.length_map]

theorem still (h : Matches s c calls added) (hcall : Transcript.asked s.joins.length call = none) :
    Matches s c (calls ++ [call]) added where
  settings := h.settings
  asked := by rw [h.asked, List.filterMap_append, List.filterMap_cons_none hcall]; simp
  aliases := h.aliases

/-- **A join call adds the join that it asks for.** -/
theorem join (h : Matches s c calls added) {parent : Source} {name : String} {type : JoinType}
    (hcall : Transcript.asked s.joins.length call = some (parent.tableAlias, name, type)) :
    Matches s (c.withJoins [c.nextJoin parent name type]) (calls ++ [call])
      (added ++ [c.nextJoin parent name type]) ∧
    (c.nextJoin parent name type).tableAlias =
      joinAlias (s.joins.length + calls.countP isJoin + 1) := by
  have halias : (c.nextJoin parent name type).tableAlias =
      joinAlias (s.joins.length + added.length + 1) := by
    change joinAlias (c.joins.length + 1) = _
    rw [h.settings, Criteria.joins_withJoins, List.length_append]
  refine ⟨⟨?_, ?_, ?_⟩, h.length_eq ▸ halias⟩
  · rw [h.settings, Criteria.withJoins_withJoins]
  · rw [List.map_append, h.asked, List.filterMap_append, List.filterMap_cons_some hcall]
    rfl
  · rw [List.map_append, h.aliases, List.length_append, List.length_singleton, List.range'_concat,
      List.map_append, List.map_singleton, List.map_singleton, halias, Nat.one_mul,
      Nat.add_right_comm]

end Matches

section

variable {s c : Criteria} {calls : Calls} {refuse : Refusals} {call : Call Mark Nat}
  {parent : Source} {name : String}

theorem agree_columnOf {m : Mark} (h : ∃ added, Matches s c calls added)
    (hcall : asked s.joins.length call = none)
    (hm : Operand.column parent.tableAlias name = m.operand s.joins.length) :
    Agree False (fun c calls => ∃ added, Matches s c calls added)
      (fun a m => a = Mark.operand s.joins.length m) (Criteria.columnOf parent name c)
      (record refuse call (fun _ => m) calls) := by
  unfold Criteria.columnOf record
  split
  · exact .left id _ _ _
  · cases refuse.call calls call with
    | some e => exact .right id _ e _
    | none =>
      obtain ⟨added, h⟩ := h
      exact .ok hm ⟨added, h.still hcall⟩

theorem agree_addJoin {type : JoinType} (h : ∃ added, Matches s c calls added)
    (hcall : asked s.joins.length call = some (parent.tableAlias, name, type)) :
    Agree False (fun c calls => ∃ added, Matches s c calls added)
      (fun source n => source.tableAlias = joinAlias (s.joins.length + n + 1))
      (Criteria.addJoin parent name type c) (record refuse call (List.countP isJoin) calls) := by
  unfold Criteria.addJoin record
  split
  · exact .left id _ _ _
  · cases refuse.call calls call with
    | some e => exact .right id _ e _
    | none =>
      obtain ⟨added, h⟩ := h
      obtain ⟨hjoin, halias⟩ := h.join hcall
      exact .ok halias ⟨_, hjoin⟩

theorem agree_size {a : Operand} {m : Mark} {k : Nat} (ha : a = m.operand k) :
    AgreeSize False (fun a m => a = Mark.operand k m) (c.sizeOf a)
      ((backend refuse).size calls m) := by
  cases hsize : c.sizeOf a with
  | error e => exact .left id e _
  | ok a' =>
    have ha' : a' = .size a := Criteria.sizeOf_eq_ok hsize
    change AgreeSize False _ _ (match refuse.size calls m with
      | some e => .error e
      | none => .ok (Mark.size m))
    cases refuse.size calls m with
    | some e => exact .right id _ e
    | none => exact .ok (by rw [ha', ha]; rfl)

end

/-- **Criteria simulate the backend that writes down its calls**, as long as neither refuses what
the other grants. The column that criteria give for a call is that of the mark given for it. -/
def ofCriteria (refuse : Refusals) (s : Criteria) :
    Simulation False Criteria.backend (backend refuse) where
  state := fun c calls => ∃ added, Matches s c calls added
  attr := fun a m => a = Mark.operand s.joins.length m
  join := fun source n => source.tableAlias = joinAlias (s.joins.length + n + 1)
  pred := fun p q => p = Sketch.rebuild s.joins.length q
  rootAttr := fun name hs => agree_columnOf hs rfl rfl
  joinAttr := fun name hs hj => agree_columnOf hs rfl (by rw [hj]; rfl)
  joinRoot := fun name type hs => agree_addJoin hs rfl
  joinFrom := fun name type hs hj => agree_addJoin hs (by rw [hj]; rfl)
  lower := fun _ ha => congrArg Operand.lower ha
  asInstant := fun _ ha => congrArg Operand.instant ha
  size := fun _ ha => agree_size ha
  test := by
    rintro c calls a m t ⟨added, hs⟩ rfl
    exact ⟨rfl, added, hs.still rfl⟩
  all := fun _ hps => congrArg Constraint.and (rebuildAll_eq hps)
  any := fun _ hps => congrArg Constraint.or (rebuildAll_eq hps)
  neg := fun _ hp => congrArg Constraint.neg hp
  always := fun _ => rfl

end Transcript

/-! ## What a compilation knows of its backend -/

/-- **A compilation depends on its backend only by the backend's operations.** From related states
of backends that simulate each other it fails on both with equal errors, or succeeds on both with
related constraints and states, and equal pages. In particular the joins that it adds to criteria
are those that it asks any backend for, in order, and its constraint is put together in the same
way, of the columns that criteria give for the same calls. -/
theorem compile_simulated {F : Type} (c : Compiler) (t : FilterType F) (object : F)
    (page : PageRequest) :
    (∀ (State Attr Join Pred State' Attr' Join' Pred' : Type) (b : Backend State Attr Join Pred)
        (b' : Backend State' Attr' Join' Pred') (S : Simulation True b b') (s : State)
        (s' : State'), S.state s s' →
        (∃ e s₁ s₁', c.compile b t object page s = .error e s₁ ∧
          c.compile b' t object page s' = .error e s₁') ∨
        ∃ r s₁ r' s₁', c.compile b t object page s = .ok r s₁ ∧
          c.compile b' t object page s' = .ok r' s₁' ∧
          S.pred r.constraint r'.constraint ∧ S.state s₁ s₁' ∧ r.page = r'.page) ∧
    ∀ (refuse : Transcript.Refusals) (s s₁ : Criteria) (r : Compiled Constraint)
        (r' : Compiled Transcript.Sketch) (calls : Transcript.Calls),
      c.compile Criteria.backend t object page s = .ok r s₁ →
      c.compile (Transcript.backend refuse) t object page [] = .ok r' calls →
        ∃ added, s₁ = s.withJoins added ∧
          added.map (fun j => (j.parentAlias, j.name, j.joinType)) =
            calls.filterMap (Transcript.asked s.joins.length) ∧
          added.map Join.tableAlias =
            (List.range' (s.joins.length + 1) added.length).map joinAlias ∧
          r.constraint = r'.constraint.rebuild s.joins.length ∧ r.page = r'.page := by
  constructor
  · intro State Attr Join Pred State' Attr' Join' Pred' b b' S s s' hs
    refine (S.compile c t object page hs).of_exact.imp_right ?_
    rintro ⟨r, s₁, r', s₁', hr, hr', ⟨hp, hpage⟩, hs⟩
    exact ⟨r, s₁, r', s₁', hr, hr', hp, hs, hpage⟩
  · intro refuse s s₁ r r' calls h h'
    have hagree := (Transcript.ofCriteria refuse s).compile c t object page
      ⟨[], Transcript.Matches.nil s⟩
    rw [h, h'] at hagree
    cases hagree with
    | ok hr hs =>
      obtain ⟨added, hadded⟩ := hs
      exact ⟨added, hadded.settings, hadded.asked, hadded.aliases, hr⟩

/-- A backend that refuses nothing. -/
def Transcript.Refusals.none : Transcript.Refusals := ⟨fun _ _ => .none, fun _ _ => .none⟩

/-- The example on criteria under watch, and on a transcript: three joins are asked for, and the
same three are added. -/
theorem compile_simulated_sharing :
    (∃ r s₁ r' w₁, (Compiler.atEpoch .inner).compile Criteria.backend sharing () byOwner people =
        .ok r s₁ ∧
      (Compiler.atEpoch .inner).compile (Criteria.backend.watched fun call _ => [call]) sharing ()
        byOwner (people, []) = .ok r' w₁ ∧
      r.constraint = r'.constraint ∧ s₁ = w₁.1 ∧ r.page = r'.page) ∧
    ∃ r s₁ r' calls added,
      (Compiler.atEpoch .inner).compile Criteria.backend sharing () byOwner people = .ok r s₁ ∧
      (Compiler.atEpoch .inner).compile (Transcript.backend .none) sharing () byOwner [] =
        .ok r' calls ∧
      s₁ = people.withJoins added ∧ calls.filterMap (Transcript.asked 0) =
        [("t0", "account", .inner), ("t0", "account", .inner), ("j2", "owner", .inner)] ∧
      added.map (fun j => (j.parentAlias, j.name, j.joinType)) =
        calls.filterMap (Transcript.asked 0) ∧
      r.constraint = r'.constraint.rebuild 0 := by
  obtain ⟨hsim, hread⟩ := compile_simulated (.atEpoch .inner) sharing () byOwner
  obtain ⟨r, s₁, h, -⟩ := exists_of_passes
    ((Compiler.atEpoch .inner).compile Criteria.backend sharing () byOwner people)
    (fun _ _ => true) (by decide +kernel)
  obtain ⟨r', calls, h', hcalls⟩ := exists_of_passes
    ((Compiler.atEpoch .inner).compile (Transcript.backend .none) sharing () byOwner [])
    (fun _ calls => calls.filterMap (Transcript.asked 0) ==
      [("t0", "account", .inner), ("t0", "account", .inner), ("j2", "owner", .inner)])
    (by decide +kernel)
  constructor
  · have hwatch := hsim _ _ _ _ _ _ _ _ _ _
      (Simulation.watched Criteria.backend fun call _ => [call]) people (people, []) rfl
    rcases hwatch with ⟨e, u, w, he, -⟩ | ⟨r₁, s₂, r₂, w, hr, hw, hp, hs, hpage⟩
    · rw [h] at he
      cases he
    · exact ⟨r₁, s₂, r₂, w, hr, hw, hp, hs, hpage⟩
  · obtain ⟨added, hs, hasked, -, hconstraint, -⟩ := hread .none people s₁ r r' calls h h'
    exact ⟨r, s₁, r', calls, added, h, h', hs, beq_iff_eq.1 hcalls, hasked, hconstraint⟩

end FilterQuery

import FilterQuery.Backend.Watched
import FilterQuery.Proofs.Compile.Failures
import FilterQuery.Recorder

/-!
# The calls for a path

A path is resolved by calls to a backend, one for each segment, until one of them is refused.

* `Exchange`, `Backend.logged`: a backend that keeps its calls with their answers;
* `RelationPath.calls`: the calls for a path, by the joins that were given for it;
* `RelationPath.Takes`, **`RelationPath.exists_takes`**: a path is followed by these calls;
* `RelationPath.Rejected`: paths that are not followed;
* **`RelationPath.resolve_exchanges`**: the calls and the result of resolving a path.
-/

namespace FilterQuery

section

variable {State Attr Join Pred α : Type}

/-! ## A backend with a log -/

/-- What a backend answers to a call. -/
inductive Answer (Attr Join : Type) where
  | attr (a : Attr)
  | join (j : Join)
  /-- A predicate was built. -/
  | built
  | refused (e : QueryError)
deriving DecidableEq, Repr

/-- A call and its answer. -/
abbrev Exchange (Attr Join : Type) : Type := Call Attr Join × Answer Attr Join

/-- The result, with notes beside the state. -/
def noted {Note : Type} (notes : List Note) :
    EStateM.Result QueryError State α → EStateM.Result QueryError (Watched State Note) α
  | .ok a s => .ok a (s, notes)
  | .error e s => .error e (s, notes)

/-- Keep a call with its answer. -/
def exchange (call : Call Attr Join) (answer : α → Answer Attr Join)
    (run : EStateM QueryError State α) :
    EStateM QueryError (Watched State (Exchange Attr Join)) α := fun s =>
  match run s.1 with
  | .ok a s' => .ok a (s', s.2 ++ [(call, answer a)])
  | .error e s' => .error e (s', s.2 ++ [(call, .refused e)])

/-- A backend that keeps its calls with their answers. -/
def Backend.logged (b : Backend State Attr Join Pred) :
    Backend (Watched State (Exchange Attr Join)) Attr Join Pred where
  rootAttr := fun name => exchange (.rootAttr name) .attr (b.rootAttr name)
  joinAttr := fun join name => exchange (.joinAttr join name) .attr (b.joinAttr join name)
  joinRoot := fun name type => exchange (.joinRoot name type) .join (b.joinRoot name type)
  joinFrom := fun parent name type =>
    exchange (.joinFrom parent name type) .join (b.joinFrom parent name type)
  lower := fun s => b.lower s.1
  asInstant := fun s => b.asInstant s.1
  size := fun s => b.size s.1
  test := fun a t s => ((b.test a t s.1).1, ((b.test a t s.1).2, s.2 ++ [(.test a t, .built)]))
  all := fun s => b.all s.1
  any := fun s => b.any s.1
  neg := fun s => b.neg s.1
  always := fun s => b.always s.1

section

variable {call : Call Attr Join} {answer : α → Answer Attr Join} {run : EStateM QueryError State α}
  {s s' : State}

theorem exchange_ok {a : α} (h : run s = .ok a s') (log : List (Exchange Attr Join)) :
    exchange call answer run (s, log) = .ok a (s', log ++ [(call, answer a)]) := by
  rw [exchange, h]

theorem exchange_error {e : QueryError} (h : run s = .error e s')
    (log : List (Exchange Attr Join)) :
    exchange call answer run (s, log) = .error e (s', log ++ [(call, .refused e)]) := by
  rw [exchange, h]

end

/-! ## The calls for a path -/

namespace RelationPath

/-- The call that joins a relation at a position. -/
def joinCall (type : JoinType) (relation : String) : Position Join → Call Attr Join
  | none => .joinRoot relation type
  | some parent => .joinFrom parent relation type

/-- The call for an attribute at a position. -/
def attrCall (leaf : String) : Position Join → Call Attr Join
  | none => .rootAttr leaf
  | some join => .joinAttr join leaf

/-- The calls for a path from a position, if those are the joins that were given for its first
relations: each relation is joined at the join before it, up to the first relation without a join
of its own, and the attribute is asked for at the last join. -/
def calls (type : JoinType) (relations : List String) (leaf : String) (position : Position Join)
    (joins : List Join) : List (Call Attr Join) :=
  List.zipWith (joinCall type) relations (position :: joins.map some) ++
    if joins.length = relations.length then [attrCall leaf (joins.getLast?.or position)] else []

variable {type : JoinType} {relations : List String} {relation leaf : String}
  {position : Position Join} {joins : List Join}

theorem calls_refused : (calls type (relation :: relations) leaf position [] :
    List (Call Attr Join)) = [joinCall type relation position] := by
  simp [calls]

theorem calls_cons (j : Join) : (calls type (relation :: relations) leaf position (j :: joins) :
    List (Call Attr Join)) =
      joinCall type relation position :: calls type relations leaf (some j) joins := by
  have hlast : (j :: joins).getLast?.or position = joins.getLast?.or (some j) := by
    rw [List.getLast?_cons]
    cases joins.getLast? <;> rfl
  simp only [calls, hlast, List.map_cons, List.zipWith_cons_cons, List.cons_append,
    List.length_cons, Nat.add_right_cancel_iff]

variable {b : Backend State Attr Join Pred} {s s₁ s' : State} {j : Join} {e : QueryError}

theorem joinAt_logged : joinAt b.logged type relation position =
    exchange (joinCall type relation position) .join (joinAt b type relation position) := by
  cases position <;> rfl

theorem attrAt_logged : attrAt b.logged leaf position =
    exchange (attrCall leaf position) .attr (attrAt b leaf position) := by
  cases position <;> rfl

theorem follow_of_joinAt (h : joinAt b type relation position s = .ok j s₁) :
    follow b type leaf (relation :: relations) position s =
      follow b type leaf relations (some j) s₁ := by
  change EStateM.bind _ _ s = _
  rw [EStateM.bind, h]

theorem follow_of_refused (h : joinAt b type relation position s = .error e s₁) :
    follow b type leaf (relation :: relations) position s = .error e s₁ := by
  change EStateM.bind _ _ s = _
  rw [EStateM.bind, h]

/-- The exchanges that a path takes from a position: its calls, the joins given for them, and the
answer to the last one, with which following the path ends. -/
structure Takes (b : Backend State Attr Join Pred) (type : JoinType) (relations : List String)
    (leaf : String) (position : Position Join) (s : State) (joins : List Join)
    (answer : Answer Attr Join) (exchanges : List (Exchange Attr Join)) (s' : State) : Prop where
  calls_eq : exchanges.map Prod.fst = calls type relations leaf position joins
  answers_eq : exchanges.map Prod.snd = joins.map .join ++ [answer]
  logged : ∀ log, follow b.logged type leaf relations position (s, log) =
    noted (log ++ exchanges) (follow b type leaf relations position s)
  result : (∃ a, answer = .attr a ∧ joins.length = relations.length ∧
      follow b type leaf relations position s = .ok a s') ∨
    ∃ e, answer = .refused e ∧ follow b type leaf relations position s = .error e s'

namespace Takes

theorem leaf_ok {a : Attr} (h : attrAt b leaf position s = .ok a s') :
    Takes b type [] leaf position s [] (.attr a) [(attrCall leaf position, .attr a)] s' where
  calls_eq := rfl
  answers_eq := rfl
  logged log := by
    rw [follow, follow, attrAt_logged, exchange_ok h, h]
    rfl
  result := .inl ⟨a, rfl, rfl, h⟩

theorem leaf_error (h : attrAt b leaf position s = .error e s') :
    Takes b type [] leaf position s [] (.refused e) [(attrCall leaf position, .refused e)] s' where
  calls_eq := rfl
  answers_eq := rfl
  logged log := by
    rw [follow, follow, attrAt_logged, exchange_error h, h]
    rfl
  result := .inr ⟨e, rfl, h⟩

theorem refused (h : joinAt b type relation position s = .error e s') :
    Takes b type (relation :: relations) leaf position s [] (.refused e)
      [(joinCall type relation position, .refused e)] s' where
  calls_eq := calls_refused.symm
  answers_eq := rfl
  logged log := by
    have hlogged : joinAt b.logged type relation position (s, log) =
        .error e (s', log ++ [(joinCall type relation position, .refused e)]) := by
      rw [joinAt_logged, exchange_error h]
    rw [follow_of_refused h, follow_of_refused hlogged]
    rfl
  result := .inr ⟨e, rfl, follow_of_refused h⟩

theorem joined {answer : Answer Attr Join} {exchanges : List (Exchange Attr Join)}
    (h : joinAt b type relation position s = .ok j s₁)
    (rest : Takes b type relations leaf (some j) s₁ joins answer exchanges s') :
    Takes b type (relation :: relations) leaf position s (j :: joins) answer
      ((joinCall type relation position, .join j) :: exchanges) s' where
  calls_eq := by rw [List.map_cons, rest.calls_eq, calls_cons]
  answers_eq := by rw [List.map_cons, rest.answers_eq, List.map_cons, List.cons_append]
  logged log := by
    have hlogged : joinAt b.logged type relation position (s, log) =
        .ok j (s₁, log ++ [(joinCall type relation position, .join j)]) := by
      rw [joinAt_logged, exchange_ok h]
    rw [follow_of_joinAt h, follow_of_joinAt hlogged, rest.logged, List.append_assoc,
      List.singleton_append]
  result := by
    rw [follow_of_joinAt h, List.length_cons, List.length_cons, Nat.add_right_cancel_iff]
    exact rest.result

end Takes

/-- **A path is followed by its calls**, until one is refused. -/
theorem exists_takes (b : Backend State Attr Join Pred) (type : JoinType) (relations : List String)
    (leaf : String) (position : Position Join) (s : State) : ∃ joins answer exchanges s',
      Takes b type relations leaf position s joins answer exchanges s' := by
  induction relations generalizing position s with
  | nil =>
    cases h : attrAt b leaf position s with
    | ok a s' => exact ⟨_, _, _, _, .leaf_ok h⟩
    | error e s' => exact ⟨_, _, _, _, .leaf_error h⟩
  | cons relation rest ih =>
    cases h : joinAt b type relation position s with
    | ok j s₁ =>
      obtain ⟨joins, answer, exchanges, s', hrest⟩ := ih (some j) s₁
      exact ⟨_, _, _, _, hrest.joined h⟩
    | error e s' => exact ⟨_, _, _, _, .refused h⟩

/-! ## Resolving a path -/

/-- A segment is blank, or there are more than one above the limit. -/
def Rejected (limit : Nat) (segments : List String) : Prop :=
  (∃ segment ∈ segments, ∀ c ∈ segment.toList, Text.isBlank c = true) ∨
    limit + 1 < segments.length

theorem readWithin_eq_ok_iff_not_rejected {limit : Nat} {path : String} {p : DottedPath}
    (h : SegmentsOf path (relations ++ [leaf])) :
    readWithin limit path = .ok p ↔
      p = ⟨relations, leaf⟩ ∧ ¬ Rejected limit (relations ++ [leaf]) := by
  have hsplit : DottedPath.split path = ⟨relations, leaf⟩ := by
    obtain ⟨hrelations, hleaf⟩ := List.append_inj' (segmentsOf_iff.1 h) rfl
    rw [hrelations, List.singleton_inj.1 hleaf]
  have hblank : ∀ segment : String,
      Text.allBlank segment = false ↔ ¬ ∀ c ∈ segment.toList, Text.isBlank c = true := by
    intro segment
    rw [Text.allBlank, ← Bool.not_eq_true, List.all_eq_true]
  rw [readWithin_eq_ok_iff, hsplit]
  refine and_congr_right ?_
  rintro rfl
  rw [Rejected, List.length_append, List.length_singleton]
  simp only [DottedPath.segments, hblank, not_or, not_exists, not_and, Nat.not_lt,
    Nat.add_le_add_iff_right]
  refine and_iff_right_of_imp ?_
  -- The empty path has a blank segment.
  rintro ⟨hink, -⟩ rfl
  have hempty : relations ++ [leaf] = [""] := (segmentsOf_iff.1 h).trans (by decide)
  exact hink "" (by rw [hempty]; exact List.mem_cons_self) (by simp)

/-- **The calls and the result of resolving a path**, on any backend. A path with a blank segment or
with too many of them is rejected without a call. Any other path takes one call for each segment,
up to the first that is refused: its relations are joined with the given type, the first one at the
root and each other one at the join that was given for the one before, and its attribute is asked
for at the last join. The attribute that is given for the last call is the result. A refusal is
returned as it is, with the whole path as its relation path. -/
theorem resolve_exchanges (b : Backend State Attr Join Pred) (type : JoinType) (limit : Nat)
    {path : String} (h : SegmentsOf path (relations ++ [leaf])) (s : State) :
    (Rejected limit (relations ++ [leaf]) →
      ∃ e, e.code = .invalidRelationPath ∧ resolve b type limit path s = .error e s ∧
        ∀ log, resolve b.logged type limit path (s, log) = .error e (s, log)) ∧
    (¬ Rejected limit (relations ++ [leaf]) → ∃ joins answer exchanges s',
      exchanges.map Prod.fst = calls type relations leaf none joins ∧
      exchanges.map Prod.snd = joins.map .join ++ [answer] ∧
      (∀ log, resolve b.logged type limit path (s, log) =
        noted (log ++ exchanges) (resolve b type limit path s)) ∧
      ((∃ a, answer = .attr a ∧ joins.length = relations.length ∧
          resolve b type limit path s = .ok a s') ∨
        ∃ e, answer = .refused e ∧
          resolve b type limit path s = .error { e with relationPath := some path } s')) := by
  constructor
  · intro hrejected
    cases hread : readWithin limit path with
    | ok p => exact absurd hrejected ((readWithin_eq_ok_iff_not_rejected h).1 hread).2
    | error e =>
      refine ⟨e, readWithin_failsWith limit path e hread, ?_, fun log => ?_⟩
      · rw [resolve, hread]
      · rw [resolve, hread]
  · intro haccepted
    have hread := (readWithin_eq_ok_iff_not_rejected h).2 ⟨rfl, haccepted⟩
    obtain ⟨joins, answer, exchanges, s', hcalls, hanswers, hlogged, hresult⟩ :=
      exists_takes b type relations leaf none s
    refine ⟨joins, answer, exchanges, s', hcalls, hanswers, fun log => ?_, ?_⟩
    · rw [resolve, resolve, hread]
      dsimp only
      rw [hlogged log]
      cases follow b type leaf relations none s <;> rfl
    · rw [resolve, hread]
      dsimp only
      rcases hresult with ⟨a, rfl, hlength, hfollow⟩ | ⟨e, rfl, hfollow⟩
      · exact .inl ⟨a, rfl, hlength, by rw [hfollow]⟩
      · exact .inr ⟨e, rfl, by rw [hfollow]; rfl⟩

/-- A backend that refuses the second relation is not asked for the attribute, and one join less
rejects the path. -/
theorem resolve_exchanges_owner :
    let path := "account.owner.city"
    let v : Recorder.Vocabulary := { refused := ["owner"] }
    SegmentsOf path (["account", "owner"] ++ ["city"]) ∧
    (Rejected 1 (["account", "owner"] ++ ["city"]) ∧ ∃ e, e.code = .invalidRelationPath ∧
      resolve Recorder.describing .inner 1 path v = .error e v) ∧
    ¬ Rejected 2 (["account", "owner"] ++ ["city"]) ∧
    ∃ (joins : List String) (exchanges : List (Exchange String String)) (e : QueryError) (v' : _),
      exchanges.map Prod.fst = calls .inner ["account", "owner"] "city" none joins ∧
      exchanges.map Prod.snd = joins.map .join ++ [.refused e] ∧
      exchanges.map (fun x => Recorder.words x.1) =
        [["join_root", "account", "inner"], ["join_from", "account", "owner", "inner"]] ∧
      resolve Recorder.describing .inner 2 path v =
        .error { e with relationPath := some path } v' := by
  intro path v
  have hsegments : SegmentsOf path (["account", "owner"] ++ ["city"]) :=
    segmentsOf_iff.2 (by decide +kernel)
  have hrejected : Rejected 1 (["account", "owner"] ++ ["city"]) := .inr (by decide)
  have haccepted : ¬ Rejected 2 (["account", "owner"] ++ ["city"]) := by
    have hnamed : (["account", "owner"] ++ ["city"]).any Text.allBlank = false := by decide +kernel
    rintro (⟨segment, hmem, hblank⟩ | hlong)
    · exact absurd (List.all_eq_true.2 hblank) (List.any_eq_false.1 hnamed segment hmem)
    · exact absurd hlong (by decide)
  obtain ⟨e₁, hcode, herror, -⟩ := (resolve_exchanges Recorder.describing .inner 1 hsegments v).1
    hrejected
  obtain ⟨joins, answer, exchanges, v', hcalls, hanswers, hlogged, hresult⟩ :=
    (resolve_exchanges Recorder.describing .inner 2 hsegments v).2 haccepted
  obtain ⟨e₂, w, hfails, hwords⟩ := exists_of_fails
    (resolve Recorder.describing.logged .inner 2 path (v, []))
    (fun _ w => w.2.map (fun x => Recorder.words x.1) ==
      [["join_root", "account", "inner"], ["join_from", "account", "owner", "inner"]])
    (by decide +kernel)
  rw [hlogged []] at hfails
  rcases hresult with ⟨a, -, -, hok⟩ | ⟨e, rfl, hrefused⟩
  · rw [hok] at hfails
    cases hfails
  · rw [hrefused] at hfails
    cases hfails
    exact ⟨hsegments, ⟨hrejected, e₁, hcode, herror⟩, haccepted, joins, exchanges, e, v', hcalls,
      hanswers, beq_iff_eq.1 hwords, hrefused⟩

end RelationPath

end

end FilterQuery

import FilterQuery.Proofs.Compile.Failures
import FilterQuery.Proofs.Compile.Inputs

/-!
# Which inputs an operator takes

The table of the operators: the form of the input, and the bounds on what it holds. The size of a
collection is asked for before the input is looked at.

* `Input.Lists`, `Input.Spans`: an input that is a list, or a range, in whichever form;
* `Instant.Reaches`, **`Instant.exists_addDays?_iff`**: an instant some days away;
* `Operation.scalar_eq_ok_iff` and others: exactly what operators read;
* `Operation.Takes`, **`Operation.exists_clause_iff`**: the table;
* **`build_eq_ok_iff_takes`**: when a predicate is built, and the error if it is not.
-/

namespace FilterQuery

open Sql

/-! ## Forms of inputs -/

/-- The input is a list of these values. -/
def Input.Lists (a : Input) (vs : List Value) : Prop := a = .list vs ∨ a = .scalar (.list vs)

/-- The input is a range, or a list of its two ends. -/
def Input.Spans (a : Input) (r : Range) : Prop := a = .range r ∨ a.Lists [r.start, r.stop]

/-! ## Instants some days away -/

/-- There is an instant some days away. A leap second is left as the second before it in a move
forward, and as the second after it in a move back. -/
def Instant.Reaches (t : Instant) (days : Int) : Prop :=
  ∃ u : Instant, u.seconds = t.seconds + days * secondsPerDay +
    if t.isLeap = true ∧ days < 0 then 1 else 0

theorem Instant.of?_isSome_iff {seconds : Int} {nanos : Nat} (h : nanos < 1000000000) :
    (of? seconds nanos).isSome = true ↔ ∃ u : Instant, u.seconds = seconds := by
  have hlt : nanos < 2000000000 := by omega
  unfold of?
  split
  · rename_i hin
    exact iff_of_true rfl ⟨⟨seconds, nanos, hin.1.1, hin.1.2, hlt⟩, rfl⟩
  · rename_i hout
    refine iff_of_false Bool.false_ne_true ?_
    rintro ⟨u, rfl⟩
    exact hout ⟨⟨u.first_le, u.lt_end⟩, hlt⟩

/-- **A move by days succeeds if there is an instant that far away.** -/
theorem Instant.exists_addDays?_iff (t : Instant) (days : Int) :
    (∃ u, t.addDays? days = some u) ↔ t.Reaches days := by
  have hnanos := t.nanos_lt
  rw [← Option.isSome_iff_exists, Reaches, addDays?]
  by_cases hzero : days = 0
  · simp only [hzero, if_true]
    exact iff_of_true rfl ⟨t, by simp⟩
  rw [if_neg hzero]
  cases hleap : t.isLeap with
  | true =>
    have h : t.nanos - 1000000000 < 1000000000 := by omega
    rw [if_pos rfl, of?_isSome_iff h]
    by_cases hback : days < 0
    · simp [hback]
    · simp [hback]
  | false =>
    have h : t.nanos < 1000000000 := by
      simpa [isLeap] using hleap
    rw [if_neg (by decide), of?_isSome_iff h]
    simp

theorem Instant.Reaches.within {t : Instant} {days : Int} (h : t.Reaches days) :
    days ≤ Operation.maxWindow ∧ -days ≤ Operation.maxWindow := by
  obtain ⟨u, hu⟩ := h
  have ht := t.first_le
  have ht' := t.lt_end
  have hu₁ := u.first_le
  have hu₂ := u.lt_end
  simp only [Operation.maxWindow, Date.firstDay, Date.lastDay, secondsPerDay] at *
  split at hu <;> omega

/-! ## What operators read, exactly -/

/-- The view of an attribute that is compared with a value by order. -/
def Value.view (v : Value) : View := if v.kind = "date" then .instant else .plain

namespace Operation

variable {op : Operation} {ctx : PredicateContext} {a : Input}

theorem scalar_eq_ok_iff {v : Value} :
    op.scalar a = .ok v ↔ a = .scalar v ∧ v.isScalar = true := by
  constructor
  · intro h
    refine ⟨?_, isScalar_scalar h⟩
    unfold scalar at h
    split at h <;> cases h
    rfl
  · rintro ⟨rfl, hv⟩
    cases v with
    | null | list => cases hv
    | _ => rfl

theorem pattern_eq_ok_iff {s : String} :
    op.pattern a = .ok s ↔ ∃ t, a = .scalar (.text t) ∧ s = Text.lowercase t := by
  constructor
  · intro h
    unfold pattern at h
    split at h <;> cases h
    exact ⟨_, rfl, rfl⟩
  · rintro ⟨t, rfl, rfl⟩
    rfl

/-- A bound is a value with an order, and a date as the instant at which it starts. -/
theorem bound_eq_ok_iff {view : View} {v : Value} : op.bound a = .ok (view, v) ↔
    ∃ w, a = .scalar w ∧ w.isOrdered = true ∧ view = w.view ∧ v = startOfDate w := by
  constructor
  · intro h
    unfold bound at h
    split at h
    · cases h
      exact ⟨_, rfl, rfl, rfl, rfl⟩
    · rename_i w hdate
      split at h
      · rename_i hordered
        cases h
        refine ⟨v, rfl, hordered, ?_⟩
        cases v with
        | date d => exact absurd rfl (hdate d)
        | _ => exact ⟨rfl, rfl⟩
      · cases h
    · cases h
  · rintro ⟨w, rfl, hordered, rfl, rfl⟩
    cases w with
    | int | float | text | date | instant => rfl
    | _ => cases hordered

theorem members_eq_ok_iff {vs : List Value} :
    op.members ctx a = .ok vs ↔ a.Lists vs ∧ vs.length ≤ ctx.maxListLen := by
  have hlimited : ∀ ws, members.limited op ctx ws = .ok vs ↔
      ws = vs ∧ vs.length ≤ ctx.maxListLen := by
    intro ws
    unfold members.limited
    by_cases h : ctx.maxListLen < ws.length
    · rw [if_pos h]
      refine iff_of_false nofun ?_
      rintro ⟨rfl, hle⟩
      omega
    · rw [if_neg h, Except.ok.injEq]
      exact (and_iff_left_of_imp fun heq => heq ▸ Nat.le_of_not_lt h).symm
  unfold members
  split
  · rw [hlimited, Input.Lists, Input.list.injEq]
    simp
  · rw [hlimited, Input.Lists]
    simp
  · rename_i hlist hscalar
    refine iff_of_false nofun ?_
    rintro ⟨rfl | rfl, -⟩
    · exact hlist _ rfl
    · exact hscalar _ rfl

theorem range_eq_ok_iff {r : Range} : op.range a = .ok r ↔ a.Spans r := by
  constructor
  · intro h
    exact range_spec h
  · have hlist : Range.ofList [r.start, r.stop] = .ok r := dif_pos r.ends_comparable
    rintro (rfl | rfl | rfl)
    · rfl
    · exact mapError_eq_ok_iff.2 hlist
    · exact mapError_eq_ok_iff.2 hlist

/-- The view of an attribute that is compared with the ends of a range. -/
def viewOf (r : Range) : View := if r.hasDate then .instant else .plain

theorem startOfDate_eq_self {v : Value} (h : ∀ d, v ≠ .date d) : startOfDate v = v := by
  cases v with
  | date d => exact absurd rfl (h d)
  | _ => rfl

theorem ends_eq_ok_iff {view : View} {start stop : Value} :
    op.ends a = .ok (view, start, stop) ↔ ∃ r, a.Spans r ∧ view = viewOf r ∧
      start = startOfDate r.start ∧ stop = startOfDate r.stop := by
  unfold ends
  simp only [exceptBind_eq_ok_iff, range_eq_ok_iff]
  refine exists_congr fun r => and_congr_right fun _ => ?_
  rw [r.isTemporal_and_hasDate, viewOf]
  cases h : r.hasDate with
  | true => simp [pure, Except.pure, eq_comm]
  | false =>
    rw [startOfDate_eq_self (Range.ne_date h).1, startOfDate_eq_self (Range.ne_date h).2]
    simp [pure, Except.pure, eq_comm]

theorem ranging_eq_ok_iff {shape : Value → Value → Shape} {x : Clause} :
    op.ranging shape a = .ok x ↔ ∃ r, a.Spans r ∧
      x = ⟨viewOf r, shape (startOfDate r.start) (startOfDate r.stop)⟩ := by
  unfold ranging
  simp only [exceptMap_eq_ok_iff, Prod.exists, ends_eq_ok_iff]
  constructor
  · rintro ⟨_, _, _, ⟨r, hr, rfl, rfl, rfl⟩, rfl⟩
    exact ⟨r, hr, rfl⟩
  · rintro ⟨r, hr, rfl⟩
    exact ⟨_, _, _, ⟨r, hr, rfl, rfl, rfl⟩, rfl⟩

theorem date_eq_ok_iff {d : Date} : op.date a = .ok d ↔
    a = .scalar (.date d) ∨ ∃ t : Instant, a = .scalar (.instant t) ∧ t.date = d := by
  constructor
  · intro h
    unfold date at h
    split at h <;> cases h
    · exact .inl rfl
    · exact .inr ⟨_, rfl, rfl⟩
  · rintro (rfl | ⟨t, rfl, rfl⟩) <;> rfl

theorem count_eq_ok_iff {n : Int64} : op.count a = .ok n ↔ a = .scalar (.int n) ∧ 0 ≤ n.toInt := by
  constructor
  · intro h
    unfold count at h
    split at h
    · split at h <;> cases h
      exact ⟨rfl, ‹_›⟩
    · cases h
  · rintro ⟨rfl, hn⟩
    exact if_pos hn

theorem window_eq_ok_iff {days : Int} : op.window a = .ok days ↔
    ∃ n : Int64, (a = .scalar (.int n) ∧ 0 ≤ n.toInt) ∧ n.toInt ≤ maxWindow ∧ n.toInt = days := by
  unfold window
  simp only [exceptBind_eq_ok_iff, count_eq_ok_iff]
  refine exists_congr fun n => and_congr_right fun _ => ?_
  by_cases h : n.toInt ≤ maxWindow
  · simp [h, pure, Except.pure]
  · simp [h, reject]

theorem windowEnd_eq_ok_iff {days : Int} {moved : Option Instant} {t : Instant} :
    op.windowEnd days moved = .ok t ↔ moved = some t := by
  unfold windowEnd
  cases moved <;> simp [reject]

theorem flag_eq_ok_iff {b : Bool} : op.flag a = .ok b ↔ a = .scalar (.bool b) := by
  constructor
  · exact flag_spec
  · rintro rfl
    rfl

/-! ## The table -/

/-- **The inputs that an operator takes.** -/
def Takes (ctx : PredicateContext) (a : Input) : Operation → Prop
  | equal | notEqual => ∃ v, a = .scalar v ∧ v.isScalar = true
  | like | notLike | startsWith | endsWith => ∃ s, a = .scalar (.text s)
  | greaterThan | greaterOrEqual | lessThan | lessOrEqual =>
    ∃ v, a = .scalar v ∧ v.kind ∈ ["int", "float", "string", "date", "datetime"]
  | isIn | notIn => ∃ vs, a.Lists vs ∧ vs.length ≤ ctx.maxListLen
  | between | notBetween | betweenExclusive | outsideRange =>
    (∃ r, a = .range r) ∨ ∃ start stop family, a.Lists [start, stop] ∧
      start.family? = some family ∧ stop.family? = some family
  | onDate => ∃ day : Date,
    (a = .scalar (.date day) ∨ ∃ t : Instant, a = .scalar (.instant t) ∧ t.date = day) ∧
      ∃ next : Date, next.day = day.day + 1
  | inLastDays => ∃ n : Int64, (a = .scalar (.int n) ∧ 0 ≤ n.toInt) ∧ ctx.now.Reaches (-n.toInt)
  | inNextDays => ∃ n : Int64, (a = .scalar (.int n) ∧ 0 ≤ n.toInt) ∧ ctx.now.Reaches n.toInt
  | sizeEq | sizeGt | sizeLt => ∃ n : Int64, a = .scalar (.int n) ∧ 0 ≤ n.toInt
  | isTrue | isFalse => True
  | isNull | isNotNull => ∃ b, a = .scalar (.bool b)

theorem exists_exceptMap_iff {α β : Type} {x : Except QueryError α} {f : α → β} :
    (∃ b, (do return f (← x)) = .ok b) ↔ ∃ a, x = .ok a := by
  simp only [exceptMap_eq_ok_iff]
  constructor
  · rintro ⟨-, a, h, -⟩
    exact ⟨a, h⟩
  · rintro ⟨a, h⟩
    exact ⟨_, a, h, rfl⟩

theorem isOrdered_iff_kind {v : Value} : v.isOrdered = true ↔
    v.kind ∈ ["int", "float", "string", "date", "datetime"] := by
  cases v <;> simp [Value.isOrdered, Value.family?, Value.kind]

theorem exists_bound_iff : (∃ x, op.bound a = .ok x) ↔
    ∃ v, a = .scalar v ∧ v.kind ∈ ["int", "float", "string", "date", "datetime"] := by
  simp only [Prod.exists, bound_eq_ok_iff, isOrdered_iff_kind]
  constructor
  · rintro ⟨-, -, v, rfl, hkind, -⟩
    exact ⟨v, rfl, hkind⟩
  · rintro ⟨v, rfl, hkind⟩
    exact ⟨_, _, v, rfl, hkind, rfl, rfl⟩

theorem exists_ends_iff : (∃ x, op.ends a = .ok x) ↔ (∃ r, a = .range r) ∨
    ∃ start stop family, a.Lists [start, stop] ∧ start.family? = some family ∧
      stop.family? = some family := by
  simp only [Prod.exists, ends_eq_ok_iff]
  constructor
  · rintro ⟨-, -, -, r, rfl | hlist, -⟩
    · exact .inl ⟨r, rfl⟩
    · obtain ⟨family, hstart, hstop⟩ := r.exists_family
      exact .inr ⟨_, _, family, hlist, hstart, hstop⟩
  · rintro (⟨r, rfl⟩ | ⟨start, stop, family, hlist, hstart, hstop⟩)
    · exact ⟨_, _, _, r, .inl rfl, rfl, rfl, rfl⟩
    · let r : Range := ⟨start, stop, comparable_iff.2 ⟨family, hstart, hstop⟩⟩
      exact ⟨_, _, _, r, .inr hlist, rfl, rfl, rfl⟩

theorem exists_next?_iff {day : Date} :
    (∃ next, day.next? = some next) ↔ ∃ next : Date, next.day = day.day + 1 := by
  unfold Date.next? Date.ofDay?
  split
  · rename_i hin
    exact iff_of_true ⟨_, rfl⟩ ⟨⟨_, hin.1, hin.2⟩, rfl⟩
  · rename_i hout
    refine iff_of_false (by simp) ?_
    rintro ⟨next, hnext⟩
    exact hout ⟨hnext ▸ next.first_le, hnext ▸ next.le_last⟩

theorem exists_window_iff {move : Int → Int} (hmove : ∀ days, move days = days ∨ move days = -days)
    {f : Int → Instant → Clause} :
    (∃ x, (do
      let days ← op.window a
      let t ← op.windowEnd days (ctx.now.addDays? (move days))
      return f days t) = .ok x) ↔
    ∃ n : Int64, (a = .scalar (.int n) ∧ 0 ≤ n.toInt) ∧ ctx.now.Reaches (move n.toInt) := by
  simp only [exceptBind_eq_ok_iff, window_eq_ok_iff, windowEnd_eq_ok_iff]
  constructor
  · rintro ⟨-, -, ⟨n, hn, -, rfl⟩, t, ht, -⟩
    exact ⟨n, hn, (ctx.now.exists_addDays?_iff _).1 ⟨t, ht⟩⟩
  · rintro ⟨n, hn, hreach⟩
    obtain ⟨t, ht⟩ := (ctx.now.exists_addDays?_iff _).2 hreach
    have hwithin := hreach.within
    have hle : n.toInt ≤ maxWindow := by
      rcases hmove n.toInt with h | h <;> rw [h] at hwithin <;> omega
    exact ⟨_, _, ⟨n, hn, hle, rfl⟩, t, ht, rfl⟩

theorem exists_flagged_iff {t : Test} :
    (∃ x, op.flagged t a = .ok x) ↔ ∃ b, a = .scalar (.bool b) := by
  unfold flagged
  simp only [exceptBind_eq_ok_iff, flag_eq_ok_iff]
  constructor
  · rintro ⟨-, b, h, -⟩
    exact ⟨b, h⟩
  · rintro ⟨b, h⟩
    cases b with
    | true => exact ⟨_, true, h, rfl⟩
    | false => exact ⟨_, false, h, rfl⟩

/-- **An operator makes a clause of exactly the inputs in the table.** -/
theorem exists_clause_iff (ctx : PredicateContext) (op : Operation) (a : Input) :
    (∃ x, op.clause ctx a = .ok x) ↔ op.Takes ctx a := by
  cases op with
  | equal | notEqual => exact exists_exceptMap_iff.trans (by simp only [scalar_eq_ok_iff]; rfl)
  | like | notLike | startsWith | endsWith =>
    refine exists_exceptMap_iff.trans ?_
    simp only [pattern_eq_ok_iff, Takes]
    exact ⟨fun ⟨_, s, h, _⟩ => ⟨s, h⟩, fun ⟨s, h⟩ => ⟨_, s, h, rfl⟩⟩
  | greaterThan | greaterOrEqual | lessThan | lessOrEqual =>
    exact exists_exceptMap_iff.trans exists_bound_iff
  | isIn | notIn => exact exists_exceptMap_iff.trans (by simp only [members_eq_ok_iff]; rfl)
  | between | notBetween | betweenExclusive | outsideRange =>
    exact exists_exceptMap_iff.trans exists_ends_iff
  | onDate =>
    simp only [clause, exceptBind_eq_ok_iff, date_eq_ok_iff, Takes, ← exists_next?_iff]
    constructor
    · rintro ⟨x, day, hday, hx⟩
      refine ⟨day, hday, ?_⟩
      cases hnext : day.next? with
      | none =>
        rw [hnext] at hx
        cases hx
      | some next => exact ⟨next, rfl⟩
    · rintro ⟨day, hday, next, hnext⟩
      refine ⟨⟨.instant, .both (.compare .ge (.instant day.start))
        (.compare .lt (.instant next.start))⟩, day, hday, ?_⟩
      rw [hnext]
      rfl
  | inLastDays => exact exists_window_iff fun _ => .inr rfl
  | inNextDays => exact exists_window_iff fun _ => .inl rfl
  | sizeEq | sizeGt | sizeLt =>
    exact exists_exceptMap_iff.trans (by simp only [count_eq_ok_iff]; rfl)
  | isTrue | isFalse => exact iff_of_true ⟨_, rfl⟩ trivial
  | isNull | isNotNull => exact exists_flagged_iff

end Operation

/-! ## Predicates on criteria -/

/-- The operand is an attribute that is registered as a collection. -/
def Sql.Criteria.IsCollection (s : Criteria) (a : Operand) : Prop :=
  ∃ path, s.attributePath a = some path ∧ path ∈ s.collections

namespace Operation

variable {ctx : PredicateContext} {op : Operation} {a : Operand} {input : Input} {s s' : Criteria}

theorem exists_build_iff : (∃ p s', op.build Criteria.backend ctx a input s = .ok p s') ↔
    (op.countsItems = true → s.IsCollection a) ∧ op.Takes ctx input := by
  simp only [build_backend_eq_ok_iff, ← exists_clause_iff]
  constructor
  · rintro ⟨-, -, -, hm, clause, hclause, -⟩
    exact ⟨hm, clause, hclause⟩
  · rintro ⟨hm, clause, hclause⟩
    exact ⟨_, s, rfl, hm, clause, hclause, rfl⟩

theorem target_error_iff {e : QueryError} (h : op.target Criteria.backend a s = .error e) :
    e.operation = some op.name ∧ e.code = .notACollection ∧ op.countsItems = true ∧
      ¬ s.IsCollection a := by
  have hno : ¬ (op.countsItems = true → s.IsCollection a) := fun hm => by
    have hok : op.target Criteria.backend a s = .ok (op.look a) :=
      target_backend_eq_ok_iff.2 ⟨rfl, hm⟩
    rw [h] at hok
    cases hok
  rw [Classical.not_imp] at hno
  rw [target, if_pos hno.1] at h
  cases hsize : Criteria.backend.size s a with
  | ok a' =>
    rw [hsize] at h
    cases h
  | error e₀ =>
    rw [hsize] at h
    cases h
    exact ⟨rfl, Criteria.sizeOf_failsWith s a e₀ hsize, hno⟩

end Operation

/-- **When a predicate is built**: the input is one that the operator takes, and the attribute is a
collection if its items are counted. Each error has the name of the operator. It is that of the
attribute if that is not a collection and should be, whatever the input is, and otherwise that of
the input. -/
theorem build_eq_ok_iff_takes (ctx : PredicateContext) (op : Operation) (a : Operand)
    (input : Input) (s : Criteria) :
    ((∃ p s', op.build Criteria.backend ctx a input s = .ok p s') ↔
      (op.countsItems = true → s.IsCollection a) ∧ op.Takes ctx input) ∧
    ∀ e s', op.build Criteria.backend ctx a input s = .error e s' →
      s' = s ∧ e.operation = some op.name ∧
        (e.code = .notACollection ∧ op.countsItems = true ∧ ¬ s.IsCollection a ∨
          e.code = .invalidFilterValue ∧ (op.countsItems = true → s.IsCollection a)) := by
  refine ⟨Operation.exists_build_iff, fun e s' h => ?_⟩
  unfold Operation.build at h
  cases ht : op.target Criteria.backend a s with
  | error e₀ =>
    rw [ht, EStateM.Result.error.injEq] at h
    obtain ⟨rfl, rfl⟩ := h
    obtain ⟨hname, hcode, hcounts, hno⟩ := Operation.target_error_iff ht
    exact ⟨rfl, hname, .inl ⟨hcode, hcounts, hno⟩⟩
  | ok a' =>
    obtain ⟨-, hm⟩ := Operation.target_backend_eq_ok_iff.1 ht
    cases hc : op.clause ctx input with
    | ok clause =>
      rw [ht, hc] at h
      cases h
    | error e₀ =>
      rw [ht, hc, EStateM.Result.error.injEq] at h
      obtain ⟨rfl, rfl⟩ := h
      obtain ⟨hcode, hname⟩ := op.refuses_clause input ctx e₀ hc
      exact ⟨rfl, hname, .inr ⟨hcode, hm⟩⟩

/-- A bad count of what is no collection is an error of the attribute, of a collection it is one of
the count, and a good count of a collection is taken. -/
theorem build_eq_ok_iff_takes_tags : ∃ e e', let tags := Operand.column "t0" "tags"
    let ctx := (Compiler.atEpoch .left).context
    Operation.sizeEq.build Criteria.backend ctx tags (.scalar (.int (-1))) people =
      .error e people ∧
    e.operation = some "SIZE_EQ" ∧ e.code = .notACollection ∧
    Operation.sizeEq.build Criteria.backend ctx tags (.scalar (.int (-1)))
      (people.withCollection "tags") = .error e' (people.withCollection "tags") ∧
    e'.operation = some "SIZE_EQ" ∧ e'.code = .invalidFilterValue ∧
    ∃ p s', Operation.sizeEq.build Criteria.backend ctx tags (.scalar (.int 2))
      (people.withCollection "tags") = .ok p s' := by
  have hno : ¬ people.IsCollection (.column "t0" "tags") := by
    rintro ⟨path, -, hpath⟩
    cases hpath
  have hyes : (people.withCollection "tags").IsCollection (.column "t0" "tags") :=
    ⟨"tags", rfl, List.mem_cons_self⟩
  have h : Operation.sizeEq.build Criteria.backend (Compiler.atEpoch .left).context
      (.column "t0" "tags") (.scalar (.int (-1))) people = .error _ people := rfl
  have h' : Operation.sizeEq.build Criteria.backend (Compiler.atEpoch .left).context
      (.column "t0" "tags") (.scalar (.int (-1))) (people.withCollection "tags") =
        .error _ (people.withCollection "tags") := rfl
  obtain ⟨-, hname, ⟨hcode, -⟩ | ⟨-, hm⟩⟩ := (build_eq_ok_iff_takes _ _ _ _ _).2 _ _ h
  · obtain ⟨-, hname', ⟨-, -, hm'⟩ | ⟨hcode', -⟩⟩ := (build_eq_ok_iff_takes _ _ _ _ _).2 _ _ h'
    · exact absurd hyes hm'
    · exact ⟨_, _, h, hname, hcode, h', hname', hcode',
        (build_eq_ok_iff_takes _ _ _ _ _).1.2 ⟨fun _ => hyes, 2, rfl, by decide⟩⟩
  · exact absurd (hm rfl) hno

end FilterQuery

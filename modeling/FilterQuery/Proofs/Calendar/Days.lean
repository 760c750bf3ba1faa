import FilterQuery.Proofs.Calendar.Civil
import FilterQuery.Proofs.Compile.Acceptance
import Mathlib.Data.Prod.Lex
import Mathlib.Order.Interval.Set.Basic

/-!
# Days and windows of days

The operators that measure in days compare an attribute with two instants. What lies between these
is one day of the calendar, or the days up to now or from now on.

* the order of instants, by seconds and then by nanoseconds; **`Date.start_le_and_lt_iff`**: the
  instants of a day;
* `Instant.DaysAway`, **`Instant.DaysAway.le_iff`**: instants at the same time on different days;
* `Operation.Builds`, `Operation.Rejects`: what an operator does on every backend;
* **`onDate_day`**: a date selects the instants of its day;
* **`windows_exact`**: windows of days reach exactly as far as they say, or are rejected.
-/

namespace FilterQuery

open Sql

/-! ## The order of instants -/

instance : LinearOrder Instant :=
  LinearOrder.lift' (fun t => toLex (t.seconds, t.nanos)) fun t u h => by
    obtain ⟨hseconds, hnanos⟩ := Prod.mk.inj (toLex.injective h)
    cases t
    cases u
    cases hseconds
    cases hnanos
    rfl

theorem Instant.le_iff {t u : Instant} :
    t ≤ u ↔ t.seconds < u.seconds ∨ t.seconds = u.seconds ∧ t.nanos ≤ u.nanos :=
  Prod.Lex.toLex_le_toLex

theorem Date.start_le_iff {d : Date} {t : Instant} :
    d.start ≤ t ↔ d.day ≤ t.seconds / secondsPerDay := by
  rw [Instant.le_iff]
  simp only [Date.start, secondsPerDay]
  omega

/-- **The instants of a day** are those from its start on and before the start of the next one. -/
theorem Date.start_le_and_lt_iff {d next : Date} {t : Instant} (h : next.day = d.day + 1) :
    d.start ≤ t ∧ t < next.start ↔ t.seconds / secondsPerDay = d.day := by
  rw [← not_le, Date.start_le_iff, Date.start_le_iff, h]
  omega

/-! ## The same time on another day -/

namespace Instant

/-- An instant is a number of days of 86400 seconds away from another one. -/
structure DaysAway (t : Instant) (days : Int) (u : Instant) : Prop where
  seconds_eq : u.seconds = t.seconds + days * secondsPerDay
  nanos_eq : u.nanos = t.nanos

namespace DaysAway

variable {t u v : Instant} {days days' : Int}

theorem zero : t.DaysAway 0 t := ⟨by simp, rfl⟩

/-- **Instants at the same time are in the order of their days.** -/
theorem le_iff (h : t.DaysAway days u) (h' : t.DaysAway days' v) : u ≤ v ↔ days ≤ days' := by
  have hu := h.seconds_eq
  have hv := h'.seconds_eq
  rw [Instant.le_iff, h.nanos_eq, h'.nanos_eq, hu, hv]
  simp only [secondsPerDay]
  omega

theorem eq_iff (h : t.DaysAway days u) (h' : t.DaysAway days' v) : u = v ↔ days = days' := by
  rw [le_antisymm_iff, h.le_iff h', h'.le_iff h, le_antisymm_iff]

theorem timeOfDay_eq (h : t.DaysAway days u) :
    u.seconds % secondsPerDay = t.seconds % secondsPerDay := by
  rw [h.seconds_eq, Int.add_mul_emod_self_right]

end DaysAway

theorem addDays?_eq_some_iff {t u : Instant} {days : Int} (h : t.isLeap = false) :
    t.addDays? days = some u ↔ t.DaysAway days u := by
  have hof : of? (t.seconds + days * secondsPerDay) t.nanos = some u ↔ t.DaysAway days u := by
    unfold of?
    constructor
    · intro heq
      split at heq
      · cases heq
        exact ⟨rfl, rfl⟩
      · cases heq
    · rintro ⟨hseconds, hnanos⟩
      rw [← hseconds, ← hnanos, dif_pos ⟨⟨u.first_le, u.lt_end⟩, u.nanos_lt⟩]
  unfold addDays?
  dsimp only
  rw [h]
  split
  · rename_i hzero
    subst hzero
    rw [Option.some.injEq]
    constructor
    · rintro rfl
      exact .zero
    · intro haway
      exact (DaysAway.zero.eq_iff haway).2 rfl
  · exact hof

end Instant

/-! ## What operators build -/

namespace Operation

/-- The operator builds the predicate of a clause, on every backend. -/
def Builds (ctx : PredicateContext) (op : Operation) (input : Input) (x : Clause) : Prop :=
  ∀ {State Attr Join Pred : Type} (b : Backend State Attr Join Pred) (a : Attr) (s : State),
    op.build b ctx a input s = .ok (x.build b a s).1 (x.build b a s).2

/-- The operator rejects the value of the input, on every backend and without a call. -/
def Rejects (ctx : PredicateContext) (op : Operation) (input : Input) : Prop :=
  ∃ e : QueryError, e.code = .invalidFilterValue ∧
    ∀ {State Attr Join Pred : Type} (b : Backend State Attr Join Pred) (a : Attr) (s : State),
      op.build b ctx a input s = .error e s

variable {ctx : PredicateContext} {op : Operation} {input : Input} {x : Clause}

theorem builds_of_clause (hop : op.countsItems = false) (h : op.clause ctx input = .ok x) :
    op.Builds ctx input x := by
  intro State Attr Join Pred b a s
  simp [build, target, hop, h]

theorem rejects_iff (hop : op.countsItems = false) :
    op.Rejects ctx input ↔ ¬ ∃ x, op.clause ctx input = .ok x := by
  constructor
  · rintro ⟨e, -, hbuild⟩ ⟨x, hx⟩
    -- On one backend the operator would both build and fail.
    have herror := hbuild Criteria.backend (.column "t0" "name") { table := "people" }
    rw [builds_of_clause hop hx] at herror
    cases herror
  · intro h
    cases hclause : op.clause ctx input with
    | ok x => exact absurd ⟨x, hclause⟩ h
    | error e =>
      refine ⟨e, (op.refuses_clause input ctx e hclause).1, fun b a s => ?_⟩
      simp [build, target, hop, hclause]

theorem rejects_iff_of_clause {p : Prop} {q : Instant → Prop} {f : Instant → Clause}
    (hop : op.countsItems = false)
    (h : ∀ x, op.clause ctx input = .ok x ↔ p ∧ ∃ u, q u ∧ x = f u) :
    op.Rejects ctx input ↔ ¬ (p ∧ ∃ u, q u) := by
  rw [rejects_iff hop, not_iff_not]
  constructor
  · rintro ⟨x, hx⟩
    obtain ⟨hp, u, hq, -⟩ := (h x).1 hx
    exact ⟨hp, u, hq⟩
  · rintro ⟨hp, u, hq⟩
    exact ⟨f u, (h _).2 ⟨hp, u, hq, rfl⟩⟩

theorem exists_builds_iff (hop : op.countsItems = false) :
    (∃ x, op.Builds ctx input x) ↔ ∃ x, op.clause ctx input = .ok x := by
  constructor
  · rintro ⟨x, hx⟩
    by_contra hno
    obtain ⟨e, -, hbuild⟩ := (rejects_iff hop).2 hno
    have herror := hbuild Criteria.backend (.column "t0" "name") { table := "people" }
    rw [hx] at herror
    cases herror
  · rintro ⟨x, hx⟩
    exact ⟨x, builds_of_clause hop hx⟩

end Operation

/-! ## One day -/

theorem Date.next?_eq_some_iff {d next : Date} : d.next? = some next ↔ next.day = d.day + 1 := by
  constructor
  · intro h
    unfold next? ofDay? at h
    split at h
    · cases h
      rfl
    · cases h
  · intro h
    rw [next?, ← h, ofDay?_day]

namespace Calendar

variable (cal : Calendar)

/-- The date on which an instant falls. -/
def dateOf (t : Instant) : CivilDate := cal.date (t.seconds / secondsPerDay)

theorem date_inj {day day' : Int} : cal.date day = cal.date day' ↔ day = day' := by
  constructor
  · intro h
    rw [← cal.dayNumber_date day, h, cal.dayNumber_date]
  · exact congrArg cal.date

theorem date_eq_last_iff (d : Date) : cal.date d.day = ⟨262142, 12, 31⟩ ↔ d.next? = none := by
  have hvalid : CivilDate.valid ⟨262142, 12, 31⟩ = true := by decide
  have hlast : CivilDate.dayNumber ⟨262142, 12, 31⟩ = Date.lastDay := by decide
  rw [cal.date_eq_iff, hlast, d.next?_eq_none_iff, and_iff_right hvalid, eq_comm]

end Calendar

/-- The input is a day, or an instant that falls on it. -/
def Input.IsOn (cal : Calendar) (a : Input) (day : Date) : Prop :=
  a = .scalar (.date day) ∨
    ∃ t : Instant, a = .scalar (.instant t) ∧ cal.dateOf t = cal.date day.day

/-- The attribute, read as an instant, lies between two instants, the first one included. -/
def Clause.during (lower upper : Instant) : Clause :=
  ⟨.instant, .both (.compare .ge (.instant lower)) (.compare .lt (.instant upper))⟩

theorem Operation.clause_onDate_eq_ok_iff {cal : Calendar} {input : Input} {day : Date}
    (h : input.IsOn cal day) (ctx : PredicateContext) (x : Clause) :
    onDate.clause ctx input = .ok x ↔
      ∃ next, day.next? = some next ∧ x = .during day.start next.start := by
  have hday : onDate.date input = .ok day := by
    refine date_eq_ok_iff.2 (h.imp_right fun ⟨t, ht, hdate⟩ => ⟨t, ht, ?_⟩)
    have hnumber : t.date.day = day.day := cal.date_inj.1 hdate
    cases day
    cases hnumber
    rfl
  simp only [clause, hday]
  cases hnext : day.next? with
  | none => simp [bind, Except.bind, hnext, reject]
  | some next => simp [bind, Except.bind, hnext, pure, Except.pure, Clause.during, eq_comm]

/-- **A date selects the instants of its day**, leap seconds included; that of an instant is the one
on which it falls. Only the last representable day cannot be selected, as it has no end. -/
theorem onDate_day (cal : Calendar) (ctx : PredicateContext) {input : Input} {day : Date}
    (h : input.IsOn cal day) :
    (Operation.onDate.Rejects ctx input ↔ cal.date day.day = ⟨262142, 12, 31⟩) ∧
    (cal.date day.day ≠ ⟨262142, 12, 31⟩ → ∃ lower upper : Instant,
      Operation.onDate.Builds ctx input (.during lower upper) ∧
      ∀ t : Instant, lower ≤ t ∧ t < upper ↔ cal.dateOf t = cal.date day.day) ∧
    ∀ c, (∃ d : Date, cal.date d.day = c) ↔
      c.valid = true ∧ -262143 ≤ c.year ∧ c.year ≤ 262142 := by
  have hclause := Operation.clause_onDate_eq_ok_iff h ctx
  have hrejects : Operation.onDate.Rejects ctx input ↔ _ := Operation.rejects_iff rfl
  rw [ne_eq, cal.date_eq_last_iff]
  refine ⟨?_, fun hlast => ?_, fun c => cal.exists_date_iff⟩
  · simp only [hrejects, hclause, Option.eq_none_iff_forall_ne_some]
    constructor
    · intro hno next hnext
      exact hno ⟨_, next, hnext, rfl⟩
    · rintro hno ⟨x, next, hnext, -⟩
      exact hno next hnext
  · obtain ⟨next, hnext⟩ := Option.ne_none_iff_exists'.1 hlast
    refine ⟨day.start, next.start,
      Operation.builds_of_clause rfl ((hclause _).2 ⟨next, hnext, rfl⟩), fun t => ?_⟩
    rw [Date.start_le_and_lt_iff (Date.next?_eq_some_iff.1 hnext), Calendar.dateOf, cal.date_inj]

/-- Instants of a leap second belong to the day that it ends, and the last day is not selected. -/
theorem onDate_day_leapSecond : ∃ (t : Instant) (day last : Date),
    let ctx := (Compiler.atEpoch .left).context
    t.isLeap = true ∧ Calendar.gregorian.dateOf t = ⟨2016, 12, 31⟩ ∧
    (Input.scalar (.instant t)).IsOn .gregorian day ∧
    (∃ lower upper : Instant, Operation.onDate.Builds ctx (.scalar (.instant t))
      (.during lower upper) ∧ lower ≤ t ∧ t < upper) ∧
    (Input.scalar (.date last)).IsOn .gregorian last ∧
    Calendar.gregorian.date last.day = ⟨262142, 12, 31⟩ ∧
    Operation.onDate.Rejects ctx (.scalar (.date last)) := by
  let t : Instant := ⟨1483228799, 1500000000, by decide, by decide, by decide⟩
  let day : Date := ⟨17166, by decide, by decide⟩
  let last : Date := ⟨Date.lastDay, by decide, by decide⟩
  have hdate : Calendar.gregorian.dateOf t = ⟨2016, 12, 31⟩ := by decide
  have hday : Calendar.gregorian.date day.day = ⟨2016, 12, 31⟩ := by decide
  have hon : (Input.scalar (.instant t)).IsOn .gregorian day :=
    .inr ⟨t, rfl, hdate.trans hday.symm⟩
  have hlast : Calendar.gregorian.date last.day = ⟨262142, 12, 31⟩ := by decide
  obtain ⟨lower, upper, hbuild, hwithin⟩ :=
    (onDate_day .gregorian (Compiler.atEpoch .left).context hon).2.1 (by rw [hday]; decide)
  have hbounds : lower ≤ t ∧ t < upper := (hwithin t).2 (hdate.trans hday.symm)
  exact ⟨t, day, last, rfl, hdate, hon, ⟨lower, upper, hbuild, hbounds⟩, .inl rfl, hlast,
    (onDate_day .gregorian _ (.inl rfl)).1.2 hlast⟩

/-! ## Windows -/

/-- The attribute, read as an instant, lies within two instants, both included. -/
def Clause.within (low high : Instant) : Clause :=
  ⟨.instant, .passes (.between (.instant low) (.instant high))⟩

namespace Operation

variable {ctx : PredicateContext} {op : Operation} {input : Input} {low high : Instant}

theorem builds_within_iff (hop : op.countsItems = false) :
    op.Builds ctx input (.within low high) ↔ op.clause ctx input = .ok (.within low high) := by
  refine ⟨fun h => ?_, builds_of_clause hop⟩
  obtain ⟨⟨view, shape⟩, hx⟩ := (exists_builds_iff hop).1 ⟨_, h⟩
  -- The constraints of clauses tell these apart, so what is built tells which clause it is of.
  have heq := h Criteria.backend (.column "t0" "name") { table := "people" }
  rw [builds_of_clause hop hx, EStateM.Result.ok.injEq, Clause.build_backend,
    Clause.build_backend] at heq
  rw [hx]
  cases view <;> cases shape <;>
    simp_all [Clause.constraint, Shape.constraint, View.operand, Clause.within]

section

variable {f : Instant → Clause} {n : Int64} (hnow : ctx.now.isLeap = false)

include hnow

/-- What a window asks is given by the instant at its other end. The bound on its length never
decides, as no instant is that far away. -/
theorem clause_window_eq_ok_iff (move : Int → Int)
    (hmove : ∀ days, move days = days ∨ move days = -days) {x : Clause} : (do
      let days ← op.window (.scalar (.int n))
      let t ← op.windowEnd days (ctx.now.addDays? (move days))
      return f t) = .ok x ↔
    0 ≤ n.toInt ∧ ∃ u, ctx.now.DaysAway (move n.toInt) u ∧ x = f u := by
  simp only [exceptBind_eq_ok_iff, window_eq_ok_iff, windowEnd_eq_ok_iff,
    Instant.addDays?_eq_some_iff hnow]
  constructor
  · rintro ⟨-, ⟨n', ⟨hn', hpos⟩, -, rfl⟩, u, haway, hx⟩
    cases hn'
    cases hx
    exact ⟨hpos, u, haway, rfl⟩
  · rintro ⟨hpos, u, haway, rfl⟩
    -- The instant is there, so the window is no longer than all representable time.
    have hreach : ctx.now.Reaches (move n.toInt) := ⟨u, by simp [haway.seconds_eq, hnow]⟩
    have hwithin := hreach.within
    have hle : n.toInt ≤ maxWindow := by
      rcases hmove n.toInt with h | h <;> rw [h] at hwithin <;> omega
    exact ⟨_, ⟨n, ⟨rfl, hpos⟩, hle, rfl⟩, u, haway, rfl⟩

theorem clause_inLastDays_eq_ok_iff {x : Clause} :
    inLastDays.clause ctx (.scalar (.int n)) = .ok x ↔
      0 ≤ n.toInt ∧ ∃ u, ctx.now.DaysAway (-n.toInt) u ∧ x = .within u ctx.now :=
  clause_window_eq_ok_iff hnow (fun days => -days) fun _ => .inr rfl

theorem clause_inNextDays_eq_ok_iff {x : Clause} :
    inNextDays.clause ctx (.scalar (.int n)) = .ok x ↔
      0 ≤ n.toInt ∧ ∃ u, ctx.now.DaysAway n.toInt u ∧ x = .within ctx.now u :=
  clause_window_eq_ok_iff hnow (fun days => days) fun _ => .inl rfl

theorem builds_inLastDays_iff : inLastDays.Builds ctx (.scalar (.int n)) (.within low high) ↔
    0 ≤ n.toInt ∧ ctx.now.DaysAway (-n.toInt) low ∧ high = ctx.now := by
  rw [builds_within_iff rfl, clause_inLastDays_eq_ok_iff hnow]
  simp [Clause.within]

theorem builds_inNextDays_iff : inNextDays.Builds ctx (.scalar (.int n)) (.within low high) ↔
    0 ≤ n.toInt ∧ ctx.now.DaysAway n.toInt high ∧ low = ctx.now := by
  rw [builds_within_iff rfl, clause_inNextDays_eq_ok_iff hnow]
  simp [Clause.within]

theorem daysAway_of_builds (hop : op = inLastDays ∨ op = inNextDays)
    (h : op.Builds ctx (.scalar (.int n)) (.within low high)) : 0 ≤ n.toInt ∧
      ctx.now.DaysAway (if op = inLastDays then -n.toInt else 0) low ∧
      ctx.now.DaysAway (if op = inLastDays then 0 else n.toInt) high := by
  rcases hop with rfl | rfl
  · obtain ⟨hpos, haway, rfl⟩ := (builds_inLastDays_iff hnow).1 h
    exact ⟨hpos, haway, .zero⟩
  · obtain ⟨hpos, haway, rfl⟩ := (builds_inNextDays_iff hnow).1 h
    exact ⟨hpos, .zero, haway⟩

end

end Operation

open Operation in
/-- **Windows of days are exact.** A window is built if its length is no negative number and the
instant at its other end is representable, and its input is rejected otherwise. It reaches from
there to now, or from now to there, and both ends are at the same time of the day. A longer window
holds a shorter one, and what is last and what is next have only now in common. -/
theorem windows_exact (ctx : PredicateContext) (hnow : ctx.now.isLeap = false) :
    (∀ n : Int64, inLastDays.Rejects ctx (.scalar (.int n)) ↔
      ¬ (0 ≤ n.toInt ∧ ∃ u, ctx.now.DaysAway (-n.toInt) u)) ∧
    (∀ n : Int64, inNextDays.Rejects ctx (.scalar (.int n)) ↔
      ¬ (0 ≤ n.toInt ∧ ∃ u, ctx.now.DaysAway n.toInt u)) ∧
    (∀ (n : Int64) (low high : Instant),
      inLastDays.Builds ctx (.scalar (.int n)) (.within low high) ↔
        0 ≤ n.toInt ∧ ctx.now.DaysAway (-n.toInt) low ∧ high = ctx.now) ∧
    (∀ (n : Int64) (low high : Instant),
      inNextDays.Builds ctx (.scalar (.int n)) (.within low high) ↔
        0 ≤ n.toInt ∧ ctx.now.DaysAway n.toInt high ∧ low = ctx.now) ∧
    (∀ op, op = inLastDays ∨ op = inNextDays → ∀ (n : Int64) (low high : Instant),
      op.Builds ctx (.scalar (.int n)) (.within low high) →
        low ≤ high ∧ (low = high ↔ n.toInt = 0) ∧ low.nanos = high.nanos ∧
          low.seconds % secondsPerDay = high.seconds % secondsPerDay) ∧
    (∀ op, op = inLastDays ∨ op = inNextDays → ∀ (n n' : Int64) (low high low' high' : Instant),
      n'.toInt = n.toInt + 1 → op.Builds ctx (.scalar (.int n)) (.within low high) →
        op.Builds ctx (.scalar (.int n')) (.within low' high') →
          Set.Icc low high ⊆ Set.Icc low' high') ∧
    ∀ (n m : Int64) (low high low' high' : Instant),
      inLastDays.Builds ctx (.scalar (.int n)) (.within low high) →
        inNextDays.Builds ctx (.scalar (.int m)) (.within low' high') →
          Set.Icc low high ∩ Set.Icc low' high' = {ctx.now} := by
  refine ⟨fun n => ?_, fun n => ?_, fun n low high => builds_inLastDays_iff hnow,
    fun n low high => builds_inNextDays_iff hnow, fun op hop n low high h => ?_,
    fun op hop n n' low high low' high' hn h h' => ?_,
    fun n m low high low' high' h h' => ?_⟩
  · exact rejects_iff_of_clause rfl fun _ => clause_inLastDays_eq_ok_iff hnow
  · exact rejects_iff_of_clause rfl fun _ => clause_inNextDays_eq_ok_iff hnow
  · obtain ⟨hpos, hlow, hhigh⟩ := daysAway_of_builds hnow hop h
    refine ⟨(hlow.le_iff hhigh).2 ?_, (hlow.eq_iff hhigh).trans ?_,
      hlow.nanos_eq.trans hhigh.nanos_eq.symm, hlow.timeOfDay_eq.trans hhigh.timeOfDay_eq.symm⟩
    · split <;> omega
    · split <;> omega
  · obtain ⟨hpos, hlow, hhigh⟩ := daysAway_of_builds hnow hop h
    obtain ⟨hpos', hlow', hhigh'⟩ := daysAway_of_builds hnow hop h'
    refine Set.Icc_subset_Icc ((hlow'.le_iff hlow).2 ?_) ((hhigh.le_iff hhigh').2 ?_)
    · split <;> omega
    · split <;> omega
  · obtain ⟨hpos, haway, rfl⟩ := (builds_inLastDays_iff hnow).1 h
    obtain ⟨hpos', haway', rfl⟩ := (builds_inNextDays_iff hnow).1 h'
    exact Set.Icc_inter_Icc_eq_singleton ((haway.le_iff .zero).2 (by omega))
      ((Instant.DaysAway.zero.le_iff haway').2 hpos')

/-- Near the first instant windows reach back three days and no further. -/
theorem windows_exact_firstDays : ∃ (ctx : PredicateContext) (low high : Instant),
    ctx.now.isLeap = false ∧ ctx.now.seconds = Date.firstDay * secondsPerDay + 259205 ∧
    Operation.inLastDays.Rejects ctx (.scalar (.int 4)) ∧
    low.seconds = Date.firstDay * secondsPerDay + 5 ∧
    Operation.inLastDays.Builds ctx (.scalar (.int 3)) (.within low ctx.now) ∧
    Operation.inNextDays.Builds ctx (.scalar (.int 1)) (.within ctx.now high) ∧
    Set.Icc low ctx.now ∩ Set.Icc ctx.now high = {ctx.now} := by
  let now : Instant := ⟨Date.firstDay * secondsPerDay + 259205, 7, by decide, by decide, by decide⟩
  let low : Instant := ⟨Date.firstDay * secondsPerDay + 5, 7, by decide, by decide, by decide⟩
  let high : Instant := ⟨Date.firstDay * secondsPerDay + 345605, 7, by decide, by decide, by decide⟩
  let ctx : PredicateContext := ⟨now, 0⟩
  obtain ⟨hrejects, -, hlast, hnext, -, -, hmeet⟩ := windows_exact ctx rfl
  have hlow : Operation.inLastDays.Builds ctx (.scalar (.int 3)) (.within low now) :=
    (hlast 3 low now).2 ⟨by decide, ⟨by decide, rfl⟩, rfl⟩
  have hhigh : Operation.inNextDays.Builds ctx (.scalar (.int 1)) (.within now high) :=
    (hnext 1 now high).2 ⟨by decide, ⟨by decide, rfl⟩, rfl⟩
  refine ⟨ctx, low, high, rfl, rfl, (hrejects 4).2 ?_, rfl, hlow, hhigh,
    hmeet _ _ _ _ _ _ hlow hhigh⟩
  rintro ⟨-, u, haway⟩
  have hfirst := u.first_le
  rw [haway.seconds_eq] at hfirst
  exact absurd hfirst (by decide)

end FilterQuery

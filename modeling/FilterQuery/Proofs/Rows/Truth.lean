import FilterQuery.Sql.Constraint

/-!
# Three-valued truth of constraints

In SQL a condition holds, fails or is unknown.

* `Truth` with its conjunction, disjunction and negation; `Truth.all_eq_holds_iff`;
* `Constraint.map_and`, `Constraint.flatMap_and`: functions on the parts of a combination;
* `Constraint.truth`: the truth of a constraint, given that of its tests; **`truth_and`**;
* `Constraint.operands`: what a constraint looks at; **`truth_congr`**: its truth depends on
  nothing else.
-/

namespace FilterQuery.Sql

/-- A truth value of SQL. -/
inductive Truth where
  | holds
  | fails
  | unknown
deriving DecidableEq, Repr

namespace Truth

def ofBool (b : Bool) : Truth := if b then holds else fails

def and : Truth → Truth → Truth
  | fails, _ => fails
  | holds, t => t
  | unknown, fails => fails
  | unknown, _ => unknown

def or : Truth → Truth → Truth
  | holds, _ => holds
  | fails, t => t
  | unknown, holds => holds
  | unknown, _ => unknown

def not : Truth → Truth
  | holds => fails
  | fails => holds
  | unknown => unknown

/-- The conjunction of truth values. -/
def all : List Truth → Truth
  | [] => holds
  | t :: ts => t.and (all ts)

/-- The disjunction of truth values. -/
def any : List Truth → Truth
  | [] => fails
  | t :: ts => t.or (any ts)

@[simp] theorem and_holds (t : Truth) : t.and holds = t := by cases t <;> rfl

@[simp] theorem or_holds (t : Truth) : t.or holds = holds := by cases t <;> rfl

@[simp] theorem or_fails (t : Truth) : t.or fails = t := by cases t <;> rfl

theorem ofBool_eq_holds_iff {b : Bool} : ofBool b = holds ↔ b = true := by cases b <;> simp [ofBool]

theorem ofBool_not (b : Bool) : ofBool (!b) = (ofBool b).not := by cases b <;> rfl

theorem not_and (t u : Truth) : (t.and u).not = t.not.or u.not := by cases t <;> cases u <;> rfl

theorem and_eq_holds_iff {t u : Truth} : t.and u = holds ↔ t = holds ∧ u = holds := by
  cases t <;> cases u <;> decide

theorem all_eq_holds_iff {ts : List Truth} : all ts = holds ↔ ∀ t ∈ ts, t = holds := by
  induction ts with
  | nil => simp [all]
  | cons t ts ih => rw [all, and_eq_holds_iff, ih, List.forall_mem_cons]

end Truth

namespace Constraint

/-- A function on constraints goes inside a combination, if it keeps those without effect and goes
inside conjunctions. -/
theorem map_and {f : Constraint → Constraint} (halways : f always = always)
    (hkeeps : ∀ c, (f c).isAlways = c.isAlways) (hall : ∀ cs, f (all cs) = all (cs.map f))
    (cs : List Constraint) : f (.and cs) = .and (cs.map f) := by
  have hfilter : (cs.map f).filter (!·.isAlways) = (cs.filter (!·.isAlways)).map f := by
    rw [List.filter_map]
    congr 1
    exact List.filter_congr fun c _ => by simp [hkeeps]
  rw [Constraint.and, Constraint.and, hfilter]
  generalize cs.filter (!·.isAlways) = ds
  rcases ds with _ | ⟨c, _ | ⟨d, ds⟩⟩
  · exact halways
  · rfl
  · exact hall _

/-- What is read off the parts of a combination, in order, if there is nothing to read off those
without effect. -/
theorem flatMap_and {β : Type} {f : Constraint → List β} (halways : f always = [])
    (hall : ∀ cs, f (all cs) = cs.flatMap f) (cs : List Constraint) :
    f (.and cs) = cs.flatMap f := by
  have hfilter : (cs.filter (!·.isAlways)).flatMap f = cs.flatMap f := by
    induction cs with
    | nil => rfl
    | cons c cs ih =>
      cases c with
      | always => rw [List.flatMap_cons, halways, List.nil_append, ← ih]; rfl
      | _ => exact congrArg (_ ++ ·) ih
  rw [← hfilter, Constraint.and]
  generalize cs.filter (!·.isAlways) = ds
  rcases ds with _ | ⟨c, _ | ⟨d, ds⟩⟩
  · exact halways
  · exact (List.append_nil _).symm
  · exact hall _

/-! ## Truth -/

mutual

/-- The truth of a constraint, given that of its tests. -/
def truth (v : Operand → Test → Truth) : Constraint → Truth
  | always => .holds
  | test a t => v a t
  | all cs => truthAll v cs
  | any cs => truthAny v cs
  | neg c => (c.truth v).not

/-- The truth of a conjunction. -/
def truthAll (v : Operand → Test → Truth) : List Constraint → Truth
  | [] => .holds
  | c :: cs => (c.truth v).and (truthAll v cs)

/-- The truth of a disjunction. -/
def truthAny (v : Operand → Test → Truth) : List Constraint → Truth
  | [] => .fails
  | c :: cs => (c.truth v).or (truthAny v cs)

end

variable {v w : Operand → Test → Truth}

theorem truthAll_eq (cs : List Constraint) : truthAll v cs = .all (cs.map (truth v)) := by
  induction cs with
  | nil => rfl
  | cons c cs ih => rw [truthAll, ih]; rfl

theorem truth_eq_holds_of_isAlways {c : Constraint} (h : c.isAlways = true) :
    c.truth v = .holds := by
  cases c with
  | always => rfl
  | _ => cases h

theorem all_truth_filter (cs : List Constraint) :
    Truth.all ((cs.filter (!·.isAlways)).map (truth v)) = .all (cs.map (truth v)) := by
  induction cs with
  | nil => rfl
  | cons c cs ih =>
    cases h : c.isAlways with
    | true =>
      rw [List.filter_cons_of_neg (by simp [h]), ih, List.map_cons, Truth.all,
        truth_eq_holds_of_isAlways h]
      rfl
    | false =>
      rw [List.filter_cons_of_pos (by simp [h]), List.map_cons, List.map_cons, Truth.all, ih]
      rfl

/-- **A combination with nothing left out has the truth of the conjunction.** -/
theorem truth_and (cs : List Constraint) :
    (Constraint.and cs).truth v = .all (cs.map (truth v)) := by
  rw [← all_truth_filter, Constraint.and]
  generalize cs.filter (!·.isAlways) = ds
  rcases ds with _ | ⟨c, _ | ⟨d, ds⟩⟩
  · rfl
  · exact (Truth.and_holds _).symm
  · exact truthAll_eq _

theorem truth_and_eq_holds_iff {cs : List Constraint} :
    (Constraint.and cs).truth v = .holds ↔ ∀ c ∈ cs, c.truth v = .holds := by
  rw [truth_and, Truth.all_eq_holds_iff, List.forall_mem_map]

/-! ## Operands -/

mutual

/-- The operands that are tested, in order. -/
def operands : Constraint → List Operand
  | always => []
  | test a _ => [a]
  | all cs => operandsOf cs
  | any cs => operandsOf cs
  | neg c => c.operands

/-- The operands of constraints in a row. -/
def operandsOf : List Constraint → List Operand
  | [] => []
  | c :: cs => c.operands ++ operandsOf cs

end

theorem operandsOf_eq (cs : List Constraint) : operandsOf cs = cs.flatMap operands := by
  induction cs with
  | nil => rfl
  | cons c cs ih => rw [operandsOf, ih, List.flatMap_cons]

theorem mem_operands_and {a : Operand} {cs : List Constraint} :
    a ∈ (Constraint.and cs).operands ↔ ∃ c ∈ cs, a ∈ c.operands := by
  have hf : (Constraint.and cs).operands = cs.flatMap operands := flatMap_and rfl operandsOf_eq cs
  rw [hf, List.mem_flatMap]

mutual

/-- **The truth of a constraint depends on its operands only.** -/
theorem truth_congr : ∀ c : Constraint, (∀ a ∈ c.operands, v a = w a) → c.truth v = c.truth w
  | always, _ => rfl
  | test a t, h => congrFun (h a List.mem_cons_self) t
  | all cs, h => (truths_congr cs h).1
  | any cs, h => (truths_congr cs h).2
  | neg c, h => congrArg Truth.not (truth_congr c h)

theorem truths_congr : ∀ cs : List Constraint, (∀ a ∈ operandsOf cs, v a = w a) →
    truthAll v cs = truthAll w cs ∧ truthAny v cs = truthAny w cs
  | [], _ => ⟨rfl, rfl⟩
  | c :: cs, h => by
    have hc := truth_congr c fun a ha => h a (List.mem_append_left _ ha)
    have hcs := truths_congr cs fun a ha => h a (List.mem_append_right _ ha)
    rw [truthAll, truthAll, truthAny, truthAny, hc, hcs.1, hcs.2]
    exact ⟨rfl, rfl⟩

end

end Constraint

end FilterQuery.Sql

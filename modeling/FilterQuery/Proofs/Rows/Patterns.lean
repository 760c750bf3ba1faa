import FilterQuery.Proofs.Compile.Fields
import FilterQuery.Proofs.Rows.Database
import Mathlib.Data.List.Infix

/-!
# Patterns on rows

Four operators ask whether a text has another one in it, at its start or at its end. The database
sees a pattern, in which some characters stand for others.

* `Fits`: a text fits a pattern, with **`Fits.append_iff`** and `Fits.literal_iff`;
  **`fits_eq_true_iff`**: the matcher of the sample database decides this;
* `Engine.IsText`: a cell is a text for the database;
* **`patterns_mean`**: what the operators ask of a text.
-/

namespace FilterQuery

namespace Sql

/-! ## Patterns -/

/-- A text fits a pattern: `%` stands for any text, `_` for one character, and each other character
for itself. -/
inductive Fits : List Char → List Char → Prop
  | nil : Fits [] []
  | any {ps cs : List Char} (skipped : List Char) : Fits ps cs → Fits ('%' :: ps) (skipped ++ cs)
  | one {ps cs : List Char} (c : Char) : Fits ps cs → Fits ('_' :: ps) (c :: cs)
  | char {ps cs : List Char} {c : Char} (any_ne : c ≠ '%') (one_ne : c ≠ '_') :
    Fits ps cs → Fits (c :: ps) (c :: cs)

namespace Fits

variable {ps qs cs : List Char}

theorem append {as bs : List Char} (h : Fits ps as) (h' : Fits qs bs) :
    Fits (ps ++ qs) (as ++ bs) := by
  induction h with
  | nil => exact h'
  | any skipped _ ih =>
    rw [List.append_assoc]
    exact .any skipped ih
  | one c _ ih => exact .one c ih
  | char any_ne one_ne _ ih => exact .char any_ne one_ne ih

/-- **A text fits two patterns in a row if it can be split between them.** -/
theorem append_iff : Fits (ps ++ qs) cs ↔ ∃ as bs, cs = as ++ bs ∧ Fits ps as ∧ Fits qs bs := by
  constructor
  · intro h
    induction ps generalizing cs with
    | nil => exact ⟨[], cs, rfl, .nil, h⟩
    | cons p ps ih =>
      cases h with
      | any skipped h =>
        obtain ⟨as, bs, rfl, has, hbs⟩ := ih h
        exact ⟨skipped ++ as, bs, (List.append_assoc _ _ _).symm, .any skipped has, hbs⟩
      | one c h =>
        obtain ⟨as, bs, rfl, has, hbs⟩ := ih h
        exact ⟨c :: as, bs, rfl, .one c has, hbs⟩
      | char any_ne one_ne h =>
        obtain ⟨as, bs, rfl, has, hbs⟩ := ih h
        exact ⟨p :: as, bs, rfl, .char any_ne one_ne has, hbs⟩
  · rintro ⟨as, bs, rfl, has, hbs⟩
    exact has.append hbs

theorem percent (cs : List Char) : Fits ['%'] cs := by
  simpa using Fits.any cs .nil

theorem percent_cons_iff : Fits ('%' :: ps) cs ↔ ∃ as bs, cs = as ++ bs ∧ Fits ps bs := by
  constructor
  · intro h
    cases h with
    | any skipped h => exact ⟨skipped, _, rfl, h⟩
    | char any_ne => exact absurd rfl any_ne
  · rintro ⟨as, bs, rfl, h⟩
    exact .any as h

theorem underscore_cons_iff : Fits ('_' :: ps) cs ↔ ∃ c ds, cs = c :: ds ∧ Fits ps ds := by
  constructor
  · intro h
    cases h with
    | one c h => exact ⟨c, _, rfl, h⟩
    | char _ one_ne => exact absurd rfl one_ne
  · rintro ⟨c, ds, rfl, h⟩
    exact .one c h

theorem cons_iff {p : Char} (any_ne : p ≠ '%') (one_ne : p ≠ '_') :
    Fits (p :: ps) cs ↔ ∃ ds, cs = p :: ds ∧ Fits ps ds := by
  constructor
  · intro h
    cases h with
    | any => exact absurd rfl any_ne
    | one => exact absurd rfl one_ne
    | char _ _ h => exact ⟨_, rfl, h⟩
  · rintro ⟨ds, rfl, h⟩
    exact .char any_ne one_ne h

theorem literal_iff (hany : '%' ∉ ps) (hone : '_' ∉ ps) : Fits ps cs ↔ cs = ps := by
  induction ps generalizing cs with
  | nil =>
    constructor
    · rintro ⟨⟩
      rfl
    · rintro rfl
      exact .nil
  | cons p ps ih =>
    rw [List.mem_cons, not_or] at hany hone
    rw [cons_iff (Ne.symm hany.1) (Ne.symm hone.1)]
    simp [ih hany.2 hone.2]

section

variable (hany : '%' ∉ ps) (hone : '_' ∉ ps)

include hany hone

theorem prefix_iff : Fits (ps ++ ['%']) cs ↔ ps <+: cs := by
  rw [append_iff]
  constructor
  · rintro ⟨as, bs, rfl, has, -⟩
    rw [(literal_iff hany hone).1 has]
    exact List.prefix_append _ _
  · rintro ⟨bs, rfl⟩
    exact ⟨ps, bs, rfl, (literal_iff hany hone).2 rfl, percent bs⟩

theorem suffix_iff : Fits ('%' :: ps) cs ↔ ps <:+ cs := by
  rw [percent_cons_iff]
  constructor
  · rintro ⟨as, bs, rfl, hbs⟩
    rw [(literal_iff hany hone).1 hbs]
    exact List.suffix_append _ _
  · rintro ⟨as, rfl⟩
    exact ⟨as, ps, rfl, (literal_iff hany hone).2 rfl⟩

theorem infix_iff : Fits ('%' :: (ps ++ ['%'])) cs ↔ ps <:+: cs := by
  rw [percent_cons_iff]
  constructor
  · rintro ⟨as, bs, rfl, hbs⟩
    exact ((prefix_iff hany hone).1 hbs).isInfix.trans (List.suffix_append _ _).isInfix
  · rintro ⟨as, bs, rfl⟩
    refine ⟨as, ps ++ bs, List.append_assoc _ _ _, ?_⟩
    exact (prefix_iff hany hone).2 (List.prefix_append _ _)

end

theorem percent_cons (h : Fits ps cs) : Fits ('%' :: ps) cs := .any [] h

theorem append_percent (h : Fits ps cs) : Fits (ps ++ ['%']) cs := by
  simpa using h.append (percent [])

end Fits

/-- **The matcher of the sample database** tries every rest of a text after a `%`. -/
theorem fits_eq_true_iff {ps cs : List Char} : fits ps cs = true ↔ Fits ps cs := by
  induction ps generalizing cs with
  | nil =>
    rw [fits, List.isEmpty_iff]
    exact (Fits.literal_iff List.not_mem_nil List.not_mem_nil).symm
  | cons p ps ih =>
    by_cases hany : p = '%'
    · subst hany
      rw [fits, List.any_eq_true, Fits.percent_cons_iff]
      simp only [List.mem_tails, ih]
      constructor
      · rintro ⟨bs, ⟨as, rfl⟩, hbs⟩
        exact ⟨as, bs, rfl, hbs⟩
      · rintro ⟨as, bs, rfl, hbs⟩
        exact ⟨bs, List.suffix_append _ _, hbs⟩
    · by_cases hone : p = '_'
      · subst hone
        rw [Fits.underscore_cons_iff]
        cases cs with
        | nil => simp [fits]
        | cons c cs => simp [fits, ih]
      · rw [Fits.cons_iff hany hone]
        cases cs with
        | nil => simp [fits]
        | cons c cs => simp [fits, ih, eq_comm (a := p)]

instance {ps cs : List Char} : Decidable (Fits ps cs) := decidable_of_iff _ fits_eq_true_iff

/-! ## Texts in cells -/

/-- A cell is a text for the database, which fits it to patterns. -/
def Engine.IsText {V : Type} (g : Engine V) (x : V) (t : String) : Prop :=
  ∀ pattern : String, g.like x pattern = .ofBool (decide (Fits pattern.toList t.toList))

variable {V : Type} {g : Engine V} {e : Env V} {a : Operand} {x : V} {t : String} in
theorem Engine.IsText.truth_like (h : g.IsText x t) (hcell : a.cell g e = some x)
    (pattern : String) : (Constraint.test a (.like pattern)).truth (g.judge e) =
      .ofBool (decide (Fits pattern.toList t.toList)) := by
  rw [Constraint.truth, Engine.judge, hcell]
  exact h pattern

theorem Engine.isText_texts (x : String) : Engine.texts.IsText x x := by
  intro pattern
  refine congrArg Truth.ofBool ?_
  rw [← decide_eq_decide.2 fits_eq_true_iff, Bool.decide_coe]

end Sql

open Sql

namespace Operation

variable {ctx : PredicateContext} {op : Operation} {a : Operand} {v : String} {s : Criteria}

theorem build_text (shape : String → Shape) (hop : op.countsItems = false)
    (hclause : op.clause ctx (.scalar (.text v)) = .ok ⟨.lower, shape (Text.lowercase v)⟩) :
    op.build Criteria.backend ctx a (.scalar (.text v)) s =
      .ok ((shape (Text.lowercase v)).constraint (.lower a)) s := by
  refine build_backend_eq_ok_iff.2 ⟨rfl, by simp [hop], _, hclause, ?_⟩
  rw [look, hop]
  rfl

end Operation

/-- **Pattern operators ask for a text in another one.** Both are in lower case, and the answer is
never unknown. A text without `%` and `_` is contained, or stands at the start or at the end; and of
any text, what fits at the start or at the end is contained. -/
theorem patterns_mean (ctx : PredicateContext) (a : Operand) (v : String) (s : Criteria) :
    ∃ contains without starts ends : Constraint,
      Operation.like.build Criteria.backend ctx a (.scalar (.text v)) s = .ok contains s ∧
      Operation.notLike.build Criteria.backend ctx a (.scalar (.text v)) s = .ok without s ∧
      Operation.startsWith.build Criteria.backend ctx a (.scalar (.text v)) s = .ok starts s ∧
      Operation.endsWith.build Criteria.backend ctx a (.scalar (.text v)) s = .ok ends s ∧
      ∀ {V : Type} (g : Engine V) (e : Env V) (x : V) (t : String),
        (Operand.lower a).cell g e = some x → g.IsText x t →
        let truth (k : Constraint) := k.truth (g.judge e)
        let w := (Text.lowercase v).toList
        truth without = (truth contains).not ∧
        ('%' ∉ w → '_' ∉ w →
          truth contains = .ofBool (decide (w <:+: t.toList)) ∧
          truth starts = .ofBool (decide (w <+: t.toList)) ∧
          truth ends = .ofBool (decide (w <:+ t.toList))) ∧
        (truth starts = .holds ∨ truth ends = .holds → truth contains = .holds) := by
  refine ⟨_, _, _, _,
    Operation.build_text (fun w => .passes (.like ("%" ++ w ++ "%"))) rfl rfl,
    Operation.build_text (fun w => .fails (.like ("%" ++ w ++ "%"))) rfl rfl,
    Operation.build_text (fun w => .passes (.like (w ++ "%"))) rfl rfl,
    Operation.build_text (fun w => .passes (.like ("%" ++ w))) rfl rfl, ?_⟩
  intro V g e x t hcell htext truth w
  have hcontains : truth (.test (.lower a) (.like ("%" ++ Text.lowercase v ++ "%"))) =
      .ofBool (decide (Fits ('%' :: (w ++ ['%'])) t.toList)) := by
    simpa using htext.truth_like hcell ("%" ++ Text.lowercase v ++ "%")
  have hstarts : truth (.test (.lower a) (.like (Text.lowercase v ++ "%"))) =
      .ofBool (decide (Fits (w ++ ['%']) t.toList)) := by
    simpa using htext.truth_like hcell (Text.lowercase v ++ "%")
  have hends : truth (.test (.lower a) (.like ("%" ++ Text.lowercase v))) =
      .ofBool (decide (Fits ('%' :: w) t.toList)) := by
    simpa using htext.truth_like hcell ("%" ++ Text.lowercase v)
  simp only [Shape.constraint, hcontains, hstarts, hends, Truth.ofBool_eq_holds_iff,
    decide_eq_true_eq]
  refine ⟨congrArg Truth.not hcontains, fun hany hone => ⟨?_, ?_, ?_⟩, ?_⟩
  · rw [decide_eq_decide.2 (Fits.infix_iff hany hone)]
  · rw [decide_eq_decide.2 (Fits.prefix_iff hany hone)]
  · rw [decide_eq_decide.2 (Fits.suffix_iff hany hone)]
  · rintro (h | h)
    · exact h.percent_cons
    · exact h.append_percent

/-- `AX` is contained in `Max`, not at the start and at the end. -/
theorem patterns_mean_max : ∃ contains without starts ends : Constraint,
    let ctx := (Compiler.atEpoch .left).context
    let text := Input.scalar (.text "AX")
    let name := Operand.column "t0" "name"
    let truth (k : Constraint) := k.truth (Engine.texts.judge (Env.root .max))
    Operation.like.build Criteria.backend ctx name text people = .ok contains people ∧
    Operation.notLike.build Criteria.backend ctx name text people = .ok without people ∧
    Operation.startsWith.build Criteria.backend ctx name text people = .ok starts people ∧
    Operation.endsWith.build Criteria.backend ctx name text people = .ok ends people ∧
    (Operand.lower name).cell Engine.texts (Env.root .max) = some "max" ∧
    Engine.texts.IsText "max" "max" ∧
    truth contains = .holds ∧ truth without = .fails ∧ truth starts = .fails ∧
    truth ends = .holds := by
  obtain ⟨contains, without, starts, ends, hcontains, hwithout, hstarts, hends, hmean⟩ :=
    patterns_mean (Compiler.atEpoch .left).context (.column "t0" "name") "AX" people
  have hcell : (Operand.lower (.column "t0" "name")).cell Engine.texts (Env.root .max) =
      some "max" := by decide +kernel
  have hlower : Text.lowercase "AX" = "ax" := by decide +kernel
  obtain ⟨hnot, hplain, -⟩ := hmean Engine.texts (Env.root .max) "max" "max" hcell
    (Engine.isText_texts "max")
  rw [hlower] at hplain
  obtain ⟨htruth, hstart, hend⟩ := hplain (by decide) (by decide)
  have hholds := htruth.trans (congrArg Truth.ofBool (by decide : _ = true))
  refine ⟨contains, without, starts, ends, hcontains, hwithout, hstarts, hends, hcell,
    Engine.isText_texts "max", hholds, hnot.trans (congrArg Truth.not hholds), ?_, ?_⟩
  · exact hstart.trans (congrArg Truth.ofBool (by decide : _ = false))
  · exact hend.trans (congrArg Truth.ofBool (by decide : _ = true))

end FilterQuery

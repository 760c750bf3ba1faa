import FilterQuery.Proofs.Rows.Truth
import FilterQuery.Sql.Select
import FilterQuery.Text.Lowercase
import Mathlib.Data.List.Basic
import Mathlib.Logic.Function.Basic

/-!
# Rows of a query

What a statement selects from tables that are lists of rows. A cell may be null, and a table of the
query is known by its alias.

* `Engine`: how cells are compared; `Engine.judge`: the truth of a test in three-valued logic;
* `Database.partners`: the related rows of a row, or a row of nulls for a left join without any;
* `Database.joined`: joins applied from left to right, with **`Database.joined_eq_flatMap`** and
  **`Database.joined_apply_of_notMem`** (a join leaves the tables before it alone);
* `Selection`: the part of a statement that both statements of a page have;
  **`Selection.mem_rows`**;
* `Engine.texts`, `Database.sample`: an example whose cells are texts.
-/

namespace FilterQuery.Sql

/-- A row: the cell of each column, null if there is none. -/
abbrev Row (V : Type) : Type := String → Option V

/-- A row of nulls. -/
def Row.null {V : Type} : Row V := fun _ => none

/-- One row for each alias of a query. -/
abbrev Env (V : Type) : Type := String → Row V

/-- A row of the root table, before any join. -/
def Env.root {V : Type} (r : Row V) : Env V := Function.update (fun _ => Row.null) rootAlias r

@[simp] theorem Env.root_rootAlias {V : Type} (r : Row V) : Env.root r rootAlias = r :=
  Function.update_self _ _ _

/-! ## Tests of cells -/

/-- What a database does with cells that are not null. -/
structure Engine (V : Type) where
  /-- Two keys are equal. -/
  same : V → V → Bool
  lower : V → Option V
  instant : V → Option V
  size : V → Option V
  compare : Comparison → V → Value → Truth
  like : V → String → Truth

section

variable {V : Type} (g : Engine V)

/-- The cell that an operand stands for. -/
def Operand.cell (e : Env V) : Operand → Option V
  | column qualifier name => e qualifier name
  | lower a => (a.cell e).bind g.lower
  | instant a => (a.cell e).bind g.instant
  | size a => (a.cell e).bind g.size

/-- The alias of the table whose column an operand looks at. -/
def Operand.qualifier : Operand → String
  | column qualifier _ => qualifier
  | lower a => a.qualifier
  | instant a => a.qualifier
  | size a => a.qualifier

variable {g} in
theorem Operand.cell_congr {e e' : Env V} {a : Operand} (h : e a.qualifier = e' a.qualifier) :
    a.cell g e = a.cell g e' := by
  induction a with
  | column qualifier name => exact congrFun h name
  | lower a ih => exact congrArg (Option.bind · g.lower) (ih h)
  | instant a ih => exact congrArg (Option.bind · g.instant) (ih h)
  | size a ih => exact congrArg (Option.bind · g.size) (ih h)

namespace Engine

/-- A comparison of a cell with a value. It is unknown if either is null. -/
def compared (c : Comparison) (cell : Option V) (v : Value) : Truth :=
  match cell with
  | none => .unknown
  | some x => if v.isNull then .unknown else g.compare c x v

/-- A test of a cell. Equality with null is written as a null test. -/
def test (cell : Option V) : Test → Truth
  | .compare .eq .null => .ofBool cell.isNone
  | .compare .ne .null => .ofBool cell.isSome
  | .compare c v => g.compared c cell v
  | .like pattern => match cell with
    | none => .unknown
    | some x => g.like x pattern
  | .isIn vs => .any (vs.map (g.compared .eq cell))
  | .between low high => (g.compared .ge cell low).and (g.compared .le cell high)
  | .isNull => .ofBool cell.isNone
  | .isNotNull => .ofBool cell.isSome

/-- A test of an operand, for one row of each table. -/
def judge (e : Env V) (a : Operand) (t : Test) : Truth := g.test (a.cell g e) t

/-- An equation of two keys. It is unknown if either is null. -/
def keyEqual : Option V → Option V → Truth
  | some x, some y => .ofBool (g.same x y)
  | _, _ => .unknown

/-- The condition of a join, for a row of the owner and one of the related table. -/
def on (r : Relation) (owner related : Row V) : Truth :=
  .all (r.keys.map fun key => g.keyEqual (owner key.1) (related key.2))

end Engine

end

/-! ## Joins -/

/-- Tables as lists of rows. -/
structure Database (V : Type) where
  engine : Engine V
  rows : String → List (Row V)

namespace Database

variable {V : Type} (db : Database V)

/-- The rows of the related table that meet the condition. -/
def matching (r : Relation) (owner : Row V) : List (Row V) :=
  (db.rows r.table).filter fun related => db.engine.on r owner related = .holds

/-- The rows that a join puts beside a row. -/
def partners (type : JoinType) (r : Relation) (owner : Row V) : List (Row V) :=
  match type, db.matching r owner with
  | .left, [] => [Row.null]
  | _, rows => rows

/-- One join. -/
def join (es : List (Env V)) (j : Join) : List (Env V) :=
  es.flatMap fun e =>
    (db.partners j.joinType j.relation (e j.parentAlias)).map (Function.update e j.tableAlias)

/-- Joins from left to right. -/
def joined (es : List (Env V)) (js : List Join) : List (Env V) := js.foldl db.join es

variable {db} {js : List Join} {e e' : Env V}

theorem mem_partners {type : JoinType} {r : Relation} {owner p : Row V}
    (h : p ∈ db.partners type r owner) : p = Row.null ∨ p ∈ db.rows r.table := by
  have hmatch : p ∈ db.matching r owner → p ∈ db.rows r.table := fun hp => (List.mem_filter.1 hp).1
  unfold partners at h
  split at h
  · exact .inl (List.mem_singleton.1 h)
  · exact .inr (hmatch h)

@[simp] theorem joined_nil (es : List (Env V)) : db.joined es [] = es := rfl

theorem joined_cons (es : List (Env V)) (j : Join) (js : List Join) :
    db.joined es (j :: js) = db.joined (db.join es j) js := rfl

theorem joined_append (es : List (Env V)) (js ks : List Join) :
    db.joined es (js ++ ks) = db.joined (db.joined es js) ks := List.foldl_append

/-- **Joins treat each row on its own.** -/
theorem joined_eq_flatMap (es : List (Env V)) (js : List Join) :
    db.joined es js = es.flatMap fun e => db.joined [e] js := by
  induction js generalizing es with
  | nil => exact (List.flatMap_singleton' es).symm
  | cons j js ih =>
    rw [joined_cons, ih, join, List.flatMap_assoc]
    refine List.flatMap_congr fun e _ => ?_
    rw [joined_cons, ih (db.join [e] j), join, List.flatMap_singleton]

theorem mem_joined {es : List (Env V)} :
    e' ∈ db.joined es js ↔ ∃ e ∈ es, e' ∈ db.joined [e] js := by
  rw [joined_eq_flatMap, List.mem_flatMap]

theorem mem_joined_cons {j : Join} : e' ∈ db.joined [e] (j :: js) ↔
    ∃ p ∈ db.partners j.joinType j.relation (e j.parentAlias),
      e' ∈ db.joined [Function.update e j.tableAlias p] js := by
  rw [joined_cons, mem_joined, join, List.flatMap_singleton]
  simp only [List.mem_map, exists_exists_and_eq_and]

theorem mem_joined_append {ks : List Join} : e' ∈ db.joined [e] (js ++ ks) ↔
    ∃ e₁ ∈ db.joined [e] js, e' ∈ db.joined [e₁] ks := by
  rw [joined_append, mem_joined]

/-- **A join leaves the tables before it alone.** -/
theorem joined_apply_of_notMem (h : e' ∈ db.joined [e] js) {q : String}
    (hq : q ∉ js.map Join.tableAlias) : e' q = e q := by
  induction js generalizing e with
  | nil => rw [List.mem_singleton.1 h]
  | cons j js ih =>
    rw [List.map_cons, List.mem_cons, not_or] at hq
    obtain ⟨p, -, h'⟩ := mem_joined_cons.1 h
    rw [ih h' hq.2, Function.update_of_ne hq.1]

theorem joined_apply_mem (hn : (js.map Join.tableAlias).Nodup) (h : e' ∈ db.joined [e] js)
    {j : Join} (hj : j ∈ js) : e' j.tableAlias = Row.null ∨ e' j.tableAlias ∈ db.rows j.table := by
  induction js generalizing e with
  | nil => cases hj
  | cons k js ih =>
    rw [List.map_cons, List.nodup_cons] at hn
    obtain ⟨p, hp, h'⟩ := mem_joined_cons.1 h
    rcases List.mem_cons.1 hj with rfl | hj
    · rw [joined_apply_of_notMem h' hn.1, Function.update_self]
      exact mem_partners hp
    · exact ih hn.2 h' hj

end Database

/-! ## Statements -/

/-- Tables, joins and condition of a statement. -/
structure Selection where
  table : String
  joins : List Join
  constraint : Constraint

namespace Selection

/-- The selection in a statement. -/
def sql (d : Dialect) (q : Selection) : String :=
  " FROM " ++ identifier d q.table ++ " " ++ rootAlias ++ joinClauses d q.joins ++
    whereClause d q.constraint

variable {V : Type} (db : Database V) (q : Selection)

/-- What the joins make of the rows of the root table. -/
def envs : List (Env V) := db.joined ((db.rows q.table).map Env.root) q.joins

/-- The condition holds; if it is unknown, a row is not selected. -/
def admits (e : Env V) : Bool := q.constraint.truth (db.engine.judge e) = .holds

/-- The rows of the root table that are selected, as often as they are. -/
def rows : List (Row V) := ((q.envs db).filter (q.admits db)).map fun e => e rootAlias

variable {db q}

/-- **A row is selected if the joins put rows beside it for which the condition holds.** -/
theorem mem_rows {r : Row V} (h : rootAlias ∉ q.joins.map Join.tableAlias) : r ∈ q.rows db ↔
    r ∈ db.rows q.table ∧ ∃ e ∈ db.joined [Env.root r] q.joins,
      q.constraint.truth (db.engine.judge e) = .holds := by
  unfold rows envs
  simp only [List.mem_map, List.mem_filter, admits, decide_eq_true_eq]
  rw [Database.joined_eq_flatMap]
  simp only [List.mem_flatMap, List.mem_map, exists_exists_and_eq_and]
  constructor
  · rintro ⟨e, ⟨⟨r', hr', he⟩, hk⟩, hr⟩
    rw [Database.joined_apply_of_notMem he h, Env.root_rootAlias] at hr
    subst hr
    exact ⟨hr', e, he, hk⟩
  · rintro ⟨hr, e, he, hk⟩
    refine ⟨e, ⟨⟨r, hr, he⟩, hk⟩, ?_⟩
    rw [Database.joined_apply_of_notMem he h, Env.root_rootAlias]

end Selection

namespace Criteria

/-- The selection under a constraint, with all joins so far. -/
def selection (c : Criteria) (k : Constraint) : Selection := ⟨c.table, c.joins, k⟩

end Criteria

/-! ## A database of texts -/

/-- A text fits a pattern, in which `%` stands for any text and `_` for any character. -/
def fits : List Char → List Char → Bool
  | [], cs => cs.isEmpty
  | '%' :: ps, cs => cs.tails.any (fits ps)
  | '_' :: _, [] => false
  | '_' :: ps, _ :: cs => fits ps cs
  | _ :: _, [] => false
  | p :: ps, c :: cs => p == c && fits ps cs

/-- A comparison of texts. -/
def Engine.compareTexts (c : Comparison) (x y : String) : Bool :=
  match c with
  | .eq => x == y
  | .ne => x != y
  | .lt => decide (x < y)
  | .le => !decide (y < x)
  | .gt => decide (y < x)
  | .ge => !decide (x < y)

/-- Cells are texts, which are compared with texts. -/
def Engine.texts : Engine String where
  same x y := x == y
  lower x := some (Text.lowercase x)
  instant _ := none
  size _ := none
  compare c x v := match v with
    | .text y => .ofBool (compareTexts c x y)
    | _ => .unknown
  like x pattern := .ofBool (fits pattern.toList x.toList)

/-- A row with the given cells, and nulls elsewhere. -/
def Row.ofCells {V : Type} (cells : List (String × V)) : Row V := fun name => List.lookup name cells

/-- A person with an account. -/
def Row.max : Row String := .ofCells [("name", "Max"), ("account_id", "1")]

/-- Three persons, two of them with accounts of one owner. -/
def Database.sample : Database String where
  engine := .texts
  rows
    | "people" => [.max, .ofCells [("name", "Xenia")],
      .ofCells [("name", "Xu"), ("account_id", "2")]]
    | "account" => [.ofCells [("id", "1"), ("status", "A"), ("owner_id", "7")],
      .ofCells [("id", "2"), ("status", "B"), ("owner_id", "7")]]
    | "owner" => [.ofCells [("id", "7"), ("city", "X"), ("name", "Ada")]]
    | _ => []

end FilterQuery.Sql

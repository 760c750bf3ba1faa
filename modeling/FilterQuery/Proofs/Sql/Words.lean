import FilterQuery.Proofs.Compile.Typing
import FilterQuery.Proofs.Sql.Statement
import Mathlib.Algebra.GroupWithZero.Nat

/-!
# Words of statements

The words of a statement that stand on their own. A name in quotes is none, nor is what follows a
dot or a dollar sign.

* `Place`, `readWords`: a reader of words, one character after the other; `bareWords`;
* `Says`: how often a text says a word; **`Says.append`**, `Says.joined`;
* `Constraint.literals`, **`Constraint.says_sql`**: of the words that this library gives a meaning,
  a constraint says only its literals;
* **`says_select`**: a statement says `WHERE` once, if it has a condition.
-/

namespace FilterQuery

/-- No value is a member of an empty list. -/
def Test.isInNothing : Test → Bool
  | isIn [] => true
  | _ => false

namespace Sql

/-! ## A reader of words -/

/-- Where a reader is in a text. -/
inductive Place where
  | between
  /-- In a word, with the characters so far, the last one first. -/
  | word (before : List Char)
  | quoted
  /-- After a dot, a dollar sign or a quoted run. What goes on from there is no word of its own. -/
  | attached
deriving DecidableEq

namespace Place

/-- The word that ends here. -/
def ended : Place → List String
  | word before => [String.ofList before.reverse]
  | _ => []

/-- What one character ends, and where it leads. -/
def step (d : Dialect) (c : Char) : Place → List String × Place
  | quoted => ([], if c = d.quote then attached else quoted)
  | p =>
    if c = d.quote then (p.ended, quoted)
    else if isWordChar c then match p with
      | word before => ([], word (c :: before))
      | attached => ([], attached)
      | _ => ([], word [c])
    else (p.ended, if c = '.' ∨ c = '$' then attached else between)

theorem ended_between : between.ended = [] := rfl

end Place

/-- The words that end in a text, and where the reader is after it. -/
def readWords (d : Dialect) : Place → List Char → List String × Place
  | p, [] => ([], p)
  | p, c :: cs =>
    ((p.step d c).1 ++ (readWords d (p.step d c).2 cs).1, (readWords d (p.step d c).2 cs).2)

/-- The words of a text. -/
def bareWords (d : Dialect) (text : String) : List String :=
  (readWords d .between text.toList).1 ++ (readWords d .between text.toList).2.ended

variable {d : Dialect} {p : Place} {c : Char} {cs : List Char}

theorem readWords_cons : readWords d p (c :: cs) =
    ((p.step d c).1 ++ (readWords d (p.step d c).2 cs).1,
      (readWords d (p.step d c).2 cs).2) := rfl

theorem readWords_append (p : Place) (cs cs' : List Char) : readWords d p (cs ++ cs') =
    ((readWords d p cs).1 ++ (readWords d (readWords d p cs).2 cs').1,
      (readWords d (readWords d p cs).2 cs').2) := by
  induction cs generalizing p with
  | nil => rfl
  | cons c cs ih => rw [List.cons_append, readWords, ih, readWords, List.append_assoc]

theorem readWords_sign (hc : isWordChar c = false) (hp : p ≠ .quoted) : readWords d p (c :: cs) =
    (p.ended ++ (readWords d .between (c :: cs)).1, (readWords d .between (c :: cs)).2) := by
  cases p with
  | quoted => exact absurd rfl hp
  | between | word | attached =>
    by_cases hquote : c = d.quote
    · simp [readWords, Place.step, hquote, Place.ended]
    · simp [readWords, Place.step, hquote, hc, Place.ended]

theorem ne_quote_of_isWordChar (hc : isWordChar c = true) : c ≠ d.quote := by
  rintro rfl
  rw [isWordChar_quote] at hc
  cases hc

theorem readWords_word {before : List Char} (h : ∀ c ∈ cs, isWordChar c = true) :
    readWords d (.word before) cs = ([], .word (cs.reverse ++ before)) := by
  induction cs generalizing before with
  | nil => rfl
  | cons c cs ih =>
    obtain ⟨hc, hcs⟩ := List.forall_mem_cons.1 h
    rw [readWords, Place.step, if_neg (ne_quote_of_isWordChar hc), if_pos hc]
    simp [ih hcs]

theorem readWords_attached (h : ∀ c ∈ cs, isWordChar c = true) :
    readWords d .attached cs = ([], .attached) := by
  induction cs with
  | nil => rfl
  | cons c cs ih =>
    obtain ⟨hc, hcs⟩ := List.forall_mem_cons.1 h
    rw [readWords, Place.step, if_neg (ne_quote_of_isWordChar hc), if_pos hc]
    simp [ih hcs]

theorem readWords_quoted (cs : List Char) :
    readWords d .quoted (doubleQuotes d.quote cs ++ [d.quote]) = ([], .attached) := by
  induction cs with
  | nil => simp [doubleQuotes, readWords, Place.step]
  | cons c cs ih =>
    by_cases hquote : c = d.quote
    · simp [doubleQuotes, readWords, Place.step, hquote, Place.ended, ih]
    · simp [doubleQuotes, readWords, Place.step, hquote, ih]

theorem readWords_quotedName (hp : p ≠ .quoted) (name : String) :
    readWords d p (quoted d name).toList = (p.ended, .attached) := by
  have hquote : readWords d .between (d.quote :: (doubleQuotes d.quote name.toList ++ [d.quote])) =
      ([], .attached) := by
    simp [readWords_cons, Place.step, Place.ended, readWords_quoted]
  rw [quoted, String.toList_ofList, List.cons_append, readWords_sign (isWordChar_quote d) hp,
    hquote, List.append_nil]

theorem readWords_identifier (name : String) :
    readWords d .attached (identifier d name).toList = ([], .attached) := by
  rcases identifier_cases d name with ⟨he, hw⟩ | he
  · rw [he]
    exact readWords_attached (isWordChar_of_mem hw)
  · rw [he]
    exact readWords_quotedName (p := .attached) (by decide) name

/-! ## Texts and their words -/

/-- The words that mean something on their own. -/
def marks : List String := ["TRUE", "FALSE", "WHERE"]

/-- The text is empty or starts with a sign. -/
def opens (text : String) : Bool := text.toList.head?.all fun c => !isWordChar c

/-- In each dialect the text closes its quotes, and no word in it means anything on its own. -/
def isSilent (text : String) : Bool :=
  Dialect.all.all fun d => (readWords d .between text.toList).2 ≠ .quoted &&
    (bareWords d text).all (!marks.contains ·)

/-- Such a text that ends between words. -/
def isSettled (text : String) : Bool :=
  isSilent text && Dialect.all.all fun d => (readWords d .between text.toList).2 = .between

/-- Such a text that keeps what is before it apart from what is after it. -/
def separates (text : String) : Bool := isSettled text && opens text && text ≠ ""

/-- The text closes its quotes, and says a word `n` times. -/
structure Says (d : Dialect) (w : String) (text : String) (n : Nat) : Prop where
  closes : (readWords d .between text.toList).2 ≠ .quoted
  count_eq : (bareWords d text).count w = n

theorem Dialect.mem_all (d : Dialect) : d ∈ all := by cases d <;> decide

variable {w text text' sep : String} {n n' : Nat}

theorem opens_empty : opens "" = true := by decide

theorem opens_append (h : opens sep = true) (hne : sep ≠ "") : opens (sep ++ text) = true := by
  rw [opens, String.toList_append]
  cases hs : sep.toList with
  | nil => exact absurd (String.toList_eq_nil_iff.1 hs) hne
  | cons c cs =>
    rw [opens, hs] at h
    exact h

theorem readWords_opens (h : opens text = true) (hp : p ≠ .quoted) :
    (readWords d p text.toList).1 ++ (readWords d p text.toList).2.ended =
        p.ended ++ bareWords d text ∧
      ((readWords d p text.toList).2 = .quoted ↔
        (readWords d .between text.toList).2 = .quoted) := by
  rw [opens] at h
  rw [bareWords]
  cases hs : text.toList with
  | nil => simp [readWords, Place.ended, hp]
  | cons c cs =>
    rw [hs, List.head?_cons, Option.all_some, Bool.not_eq_true'] at h
    rw [readWords_sign h hp, List.append_assoc]
    exact ⟨rfl, Iff.rfl⟩

namespace Says

theorem empty : Says d w "" 0 := ⟨by simp [readWords], rfl⟩

/-- **Texts are read one after the other** if the second one starts with a sign. -/
theorem append (h : Says d w text n) (h' : Says d w text' n') (ho : opens text' = true) :
    Says d w (text ++ text') (n + n') := by
  obtain ⟨hwords, hplace⟩ := readWords_opens (d := d) ho h.closes
  constructor
  · rw [String.toList_append, readWords_append, ne_eq, hplace]
    exact h'.closes
  · rw [bareWords, String.toList_append, readWords_append, List.append_assoc, hwords,
      ← List.append_assoc, List.count_append, h'.count_eq]
    exact congrArg (· + n') h.count_eq

theorem silent (h : isSilent text = true) (hw : w ∈ marks) : Says d w text 0 := by
  obtain ⟨hplace, hwords⟩ := Bool.and_eq_true_iff.1 (List.all_eq_true.1 h d d.mem_all)
  refine ⟨of_decide_eq_true hplace, List.count_eq_zero.2 fun hmem => ?_⟩
  have hno := List.all_eq_true.1 hwords w hmem
  simp [hw] at hno

theorem append_of_between (h : Says d w text n)
    (hp : (readWords d .between text.toList).2 = .between) (h' : Says d w text' n') :
    Says d w (text ++ text') (n + n') := by
  have hcount := h.count_eq
  rw [bareWords, hp, Place.ended_between, List.append_nil] at hcount
  constructor
  · rw [String.toList_append, readWords_append, hp]
    exact h'.closes
  · rw [bareWords, String.toList_append, readWords_append, hp, List.append_assoc,
      List.count_append, hcount]
    exact congrArg (n + ·) h'.count_eq

theorem prepend (hs : isSettled sep = true) (hw : w ∈ marks) (h : Says d w text n) :
    Says d w (sep ++ text) n := by
  obtain ⟨hsilent, hplaces⟩ := Bool.and_eq_true_iff.1 hs
  have hplace := of_decide_eq_true (List.all_eq_true.1 hplaces d d.mem_all)
  have hboth := (silent hsilent hw : Says d w sep 0).append_of_between hplace h
  rwa [Nat.zero_add] at hboth

theorem separated (h : Says d w text n) (hs : separates sep = true) (hw : w ∈ marks)
    (h' : Says d w text' n') : Says d w (text ++ sep ++ text') (n + n') := by
  obtain ⟨hboth, hne⟩ := Bool.and_eq_true_iff.1 hs
  obtain ⟨hsettled, hopens⟩ := Bool.and_eq_true_iff.1 hboth
  rw [String.append_assoc]
  exact h.append (prepend hsettled hw h') (opens_append hopens (of_decide_eq_true hne))

theorem joined {texts : List String} {counts : List Nat} (hs : separates sep = true)
    (hw : w ∈ marks) (h : List.Forall₂ (Says d w) texts counts) :
    Says d w (Text.joined sep texts) counts.sum := by
  induction h with
  | nil => exact empty
  | @cons text n rest counts ht hrest ih =>
    rw [List.sum_cons]
    cases hrest with
    | nil => exact ht
    | cons => exact ht.separated hs hw ih

theorem joined_silent {texts : List String} (hs : separates sep = true) (hw : w ∈ marks)
    (h : ∀ text ∈ texts, Says d w text 0) : Says d w (Text.joined sep texts) 0 := by
  have hall : List.Forall₂ (Says d w) texts (texts.map fun _ => 0) :=
    List.forall₂_map_right_iff.2 (List.forall₂_same.2 h)
  simpa using joined hs hw hall

end Says

/-! ## Names, parameters and operands -/

theorem readWords_start (h : ∀ c ∈ cs, isWordChar c = true) (hne : cs ≠ []) :
    readWords d .between cs = ([], .word cs.reverse) := by
  cases cs with
  | nil => exact absurd rfl hne
  | cons c cs =>
    obtain ⟨hc, hcs⟩ := List.forall_mem_cons.1 h
    have hstep : Place.between.step d c = ([], .word [c]) := by
      simp [Place.step, ne_quote_of_isWordChar hc, hc]
    rw [readWords, hstep, readWords_word hcs, List.reverse_cons, List.nil_append]

theorem IsAlias.exists_toList {a : String} (h : IsAlias a) :
    ∃ c cs, a.toList = c :: cs ∧ (c = 't' ∨ c = 'j') := by
  rcases h with rfl | ⟨n, rfl⟩
  · exact ⟨_, _, rfl, .inl rfl⟩
  · exact ⟨'j', (toString n).toList, String.toList_append, .inr rfl⟩

theorem IsAlias.notMem_marks {a : String} (h : IsAlias a) : a ∉ marks := by
  obtain ⟨c, cs, hcs, hc⟩ := h.exists_toList
  intro hmem
  simp only [marks, List.mem_cons, List.not_mem_nil, or_false] at hmem
  rcases hmem with rfl | rfl | rfl <;> cases hcs <;> revert hc <;> decide

theorem says_word (h : isWord text = true) (hne : text ≠ "") :
    Says d w text ([text].count w) := by
  have hstart := readWords_start (d := d) (isWordChar_of_mem h)
    fun hnil => hne (String.toList_eq_nil_iff.1 hnil)
  constructor
  · simp [hstart]
  · rw [bareWords, hstart, Place.ended, List.reverse_reverse, String.ofList_toList,
      List.nil_append]

theorem says_other_word (h : isWord text = true) (hne : text ≠ w) : Says d w text 0 := by
  by_cases hempty : text = ""
  · subst hempty
    exact ⟨nofun, rfl⟩
  · have hcount : [text].count w = 0 := by simp [hne]
    rw [← hcount]
    exact says_word h hempty

theorem says_alias {a : String} (h : IsAlias a) (hw : w ∈ marks) : Says d w a 0 :=
  says_other_word h.isWord (by rintro rfl; exact h.notMem_marks hw)

theorem says_column {qualifier : String} (h : IsAlias qualifier) (name : String) (hw : w ∈ marks) :
    Says d w (qualifier ++ "." ++ identifier d name) 0 := by
  have hqualifier : Says d w qualifier 0 := says_alias h hw
  have hdot : Says d w (qualifier ++ ".") 0 :=
    hqualifier.append (.silent (by decide) hw) (by decide)
  have hplace : (readWords d .between (qualifier ++ ".").toList).2 = .attached := by
    have hsign : isWordChar '.' = false := by decide
    rw [String.toList_append, readWords_append]
    change (readWords d _ ['.']).2 = _
    rw [readWords_sign hsign hqualifier.closes]
    cases d <;> rfl
  have hcount := hdot.count_eq
  rw [bareWords, hplace] at hcount
  constructor
  · rw [String.toList_append, readWords_append, hplace, readWords_identifier]
    simp
  · rw [bareWords, String.toList_append, readWords_append, hplace, readWords_identifier,
      List.append_nil]
    exact hcount

theorem Operand.says_sql {a : Operand} (h : IsAlias a.qualifier) (hw : w ∈ marks) :
    Says d w (a.sql d) 0 := by
  induction a with
  | column qualifier name => exact says_column h name hw
  | lower a ih =>
    rw [sql]
    exact (Says.prepend (by decide) hw (ih h)).append (.silent (by decide) hw) (by decide)
  | instant a ih =>
    cases d with
    | postgreSQL | mySQL | sqLite =>
      exact (Says.prepend (by decide) hw (ih h)).append (.silent (by decide) hw) (by decide)
  | size a ih =>
    have hopen : isSettled (Operand.sizeFunction d ++ "(") = true := by cases d <;> decide
    exact (Says.prepend hopen hw (ih h)).append (.silent (by decide) hw) (by decide)

theorem says_placeholder (n : Nat) (hw : w ∈ marks) : Says d w (d.placeholder n) 0 := by
  cases d with
  | postgreSQL =>
    have hdollar : readWords .postgreSQL .between "$".toList = ([], .attached) := by decide
    have hplace : readWords .postgreSQL .between (Dialect.placeholder n .postgreSQL).toList =
        ([], .attached) := by
      rw [Dialect.placeholder, String.toList_append, readWords_append, hdollar,
        readWords_attached (isWordChar_of_mem (isWord_toString n)), List.nil_append]
    exact ⟨by simp [hplace], by simp [bareWords, hplace, Place.ended]⟩
  | mySQL | sqLite =>
    rw [Dialect.placeholder]
    exact .silent (by decide) hw

/-! ## Constraints -/

theorem says_true : Says d w "TRUE" (["TRUE"].count w) := says_word (by decide) (by decide)

theorem says_false : Says d w "FALSE" (["FALSE"].count w) := says_word (by decide) (by decide)

namespace Constraint

theorem says_placeholders (n count : Nat) (hw : w ∈ marks) :
    Says d w (Text.joined ", " (placeholders d n count)) 0 := by
  refine .joined_silent (by decide) hw ?_
  induction count generalizing n with
  | zero => exact fun _ hm => absurd hm List.not_mem_nil
  | succ count ih => exact List.forall_mem_cons.2 ⟨says_placeholder (n + 1) hw, ih (n + 1)⟩

mutual

/-- The words that a constraint is written with where there is nothing to test. -/
def literals : Constraint → List String
  | always => ["TRUE"]
  | test _ t => if t.isInNothing then ["FALSE"] else []
  | all [] => ["TRUE"]
  | all cs => literalsOf cs
  | any [] => ["FALSE"]
  | any cs => literalsOf cs
  | neg c => c.literals

/-- The literals of constraints in a row. -/
def literalsOf : List Constraint → List String
  | [] => []
  | c :: cs => c.literals ++ literalsOf cs

end

theorem says_testSql {operand : String} (h : Says d w operand 0) (n : Nat) (t : Test)
    (hw : w ∈ marks) (a : Operand) :
    Says d w (testSql d n operand t) ((test a t).literals.count w) := by
  cases t with
  | compare c v =>
    rcases compare_cases c v with ⟨rfl, rfl⟩ | ⟨rfl, rfl⟩ | ⟨-, hsql⟩
    · exact h.append (.silent (by decide) hw) (by decide)
    · exact h.append (.silent (by decide) hw) (by decide)
    · have hsigned : Says d w (operand ++ (" " ++ c.sign ++ " ") ++ d.placeholder (n + 1)) 0 :=
        h.separated (by cases c <;> decide) hw (says_placeholder _ hw)
      simp only [hsql, String.append_assoc] at hsigned ⊢
      exact hsigned
  | like pattern =>
    exact h.separated (by decide) hw (says_placeholder _ hw)
  | isIn vs =>
    cases vs with
    | nil => exact says_false
    | cons v vs =>
      have hlist : Says d w (operand ++ " IN (" ++ _) 0 :=
        h.separated (by decide) hw (says_placeholders n (vs.length + 1) hw)
      exact hlist.append (.silent (by decide) hw) (by decide)
  | between low high =>
    have hlow : Says d w (operand ++ " BETWEEN " ++ d.placeholder (n + 1)) 0 :=
      h.separated (by decide) hw (says_placeholder _ hw)
    exact hlow.separated (by decide) hw (says_placeholder _ hw)
  | isNull | isNotNull => exact h.append (.silent (by decide) hw) (by decide)

mutual

/-- **The literals of a constraint are the words that it says**, of those that mean something. -/
theorem says_sql (hw : w ∈ marks) : ∀ (k : Constraint) (n : Nat),
    (∀ a ∈ k.operands, IsAlias a.qualifier) → Says d w (k.sql d n) (k.literals.count w)
  | always, n, _ => says_true
  | test a t, n, h => says_testSql (Operand.says_sql (h a List.mem_cons_self) hw) n t hw a
  | all [], n, _ => says_true
  | any [], n, _ => says_false
  | all (c :: cs), n, h => by
    obtain ⟨counts, hall, hsum⟩ := says_sqlOf hw (c :: cs) n h
    have hjoined : Says d w (Text.joined " AND " (sqlOf d n (c :: cs))) counts.sum :=
      .joined (by decide) hw hall
    rw [hsum] at hjoined
    exact (Says.prepend (by decide) hw hjoined).append (.silent (by decide) hw) (by decide)
  | any (c :: cs), n, h => by
    obtain ⟨counts, hall, hsum⟩ := says_sqlOf hw (c :: cs) n h
    have hjoined : Says d w (Text.joined " OR " (sqlOf d n (c :: cs))) counts.sum :=
      .joined (by decide) hw hall
    rw [hsum] at hjoined
    exact (Says.prepend (by decide) hw hjoined).append (.silent (by decide) hw) (by decide)
  | neg k, n, h =>
    (Says.prepend (by decide) hw (says_sql hw k n h)).append (.silent (by decide) hw) (by decide)

theorem says_sqlOf (hw : w ∈ marks) : ∀ (cs : List Constraint) (n : Nat),
    (∀ a ∈ operandsOf cs, IsAlias a.qualifier) →
    ∃ counts, List.Forall₂ (Says d w) (sqlOf d n cs) counts ∧
      counts.sum = (literalsOf cs).count w
  | [], _, _ => ⟨[], .nil, rfl⟩
  | c :: cs, n, h => by
    rw [operandsOf, List.forall_mem_append] at h
    obtain ⟨counts, hall, hsum⟩ := says_sqlOf hw cs (n + c.params.length) h.2
    refine ⟨_ :: counts, .cons (says_sql hw c n h.1) hall, ?_⟩
    rw [List.sum_cons, hsum, literalsOf, List.count_append]

end

mutual

theorem where_notMem_literals : ∀ k : Constraint, "WHERE" ∉ k.literals
  | always => by decide
  | test _ t => by
    rw [literals]
    split <;> decide
  | all [] => by decide
  | any [] => by decide
  | all (c :: cs) => where_notMem_literalsOf (c :: cs)
  | any (c :: cs) => where_notMem_literalsOf (c :: cs)
  | neg c => where_notMem_literals c

theorem where_notMem_literalsOf : ∀ cs : List Constraint, "WHERE" ∉ literalsOf cs
  | [] => List.not_mem_nil
  | c :: cs => by
    rw [literalsOf, List.mem_append, not_or]
    exact ⟨where_notMem_literals c, where_notMem_literalsOf cs⟩

end

end Constraint

/-! ## Statements -/

theorem where_mem_marks : "WHERE" ∈ marks := by decide

/-- The word is reserved, so that a name that is equal to it is quoted. -/
theorem says_identifier (name : String) : Says d "WHERE" (identifier d name) 0 := by
  rcases identifier_cases d name with ⟨he, hw⟩ | he
  · rw [he]
    refine says_other_word hw ?_
    rintro rfl
    have hquoted : identifier d "WHERE" ≠ "WHERE" := by cases d <;> decide +kernel
    exact hquoted he
  · have hplace : readWords d .between (quoted d name).toList = ([], .attached) :=
      readWords_quotedName (p := .between) (by decide) name
    rw [he]
    exact ⟨by simp [hplace], by simp [bareWords, hplace, Place.ended]⟩

theorem says_toString (n : Nat) : Says d "WHERE" (toString n) 0 := by
  refine says_other_word (isWord_toString n) fun h => ?_
  have hdigit : 'W'.isDigit = true := isDigit_of_mem_toString (n := n) (by rw [h]; decide)
  revert hdigit
  decide

namespace Relation

variable {owner related : String} (ho : IsAlias owner) (hr : IsAlias related)

include ho hr

theorem says_equation (key : String × String) :
    Says d "WHERE" (equation d owner related key) 0 := by
  have hboth : Says d "WHERE" (owner ++ "." ++ identifier d key.1 ++ " = " ++
      (related ++ "." ++ identifier d key.2)) 0 :=
    (says_column ho key.1 where_mem_marks).separated (by decide) where_mem_marks
      (says_column hr key.2 where_mem_marks)
  rw [equation]
  simpa only [String.append_assoc] using hboth

theorem says_onCondition (r : Relation) : Says d "WHERE" (r.onCondition d owner related) 0 := by
  unfold onCondition
  split
  · exact says_true
  · refine .joined_silent (by decide) where_mem_marks fun text htext => ?_
    obtain ⟨key, -, rfl⟩ := List.mem_map.1 htext
    exact says_equation ho hr key

end Relation

theorem Join.says_clause {j : Join} (h : j.Scoped d) : Says d "WHERE" (j.clause d) 0 := by
  have hkeyword : isSettled (" " ++ j.joinType.keyword ++ " ") = true := by
    cases j.joinType <;> decide
  have htable : Says d "WHERE" (" " ++ j.joinType.keyword ++ " " ++ identifier d j.table) 0 :=
    .prepend hkeyword where_mem_marks (says_identifier j.table)
  have halias : Says d "WHERE"
      (" " ++ j.joinType.keyword ++ " " ++ identifier d j.table ++ " " ++ j.tableAlias) 0 :=
    htable.separated (by decide) where_mem_marks (says_alias h.table where_mem_marks)
  have hon : Says d "WHERE" j.on 0 := by
    rw [Join.on, h.dialect_eq]
    exact j.relation.says_onCondition h.parent h.table
  exact halias.separated (by decide) where_mem_marks hon

theorem says_joinClauses {js : List Join} (h : ∀ j ∈ js, j.Scoped d) :
    Says d "WHERE" (joinClauses d js) 0 ∧ opens (joinClauses d js) = true := by
  induction js with
  | nil => exact ⟨.empty, opens_empty⟩
  | cons j js ih =>
    obtain ⟨hj, hjs⟩ := List.forall_mem_cons.1 h
    refine ⟨(Join.says_clause hj).append (ih hjs).1 (ih hjs).2, ?_⟩
    simp only [joinClauses, Join.clause, String.append_assoc]
    exact opens_append (by decide) (by decide)

/-- **The condition says `WHERE` once, if there is one.** -/
theorem says_whereClause {k : Constraint} (h : ∀ a ∈ k.operands, IsAlias a.qualifier) :
    Says d "WHERE" (whereClause d k) (if k.isAlways then 0 else 1) ∧
      opens (whereClause d k) = true := by
  unfold whereClause
  split
  · exact ⟨.empty, opens_empty⟩
  · have hword : Says d "WHERE" " WHERE " 1 := ⟨by cases d <;> decide, by cases d <;> decide⟩
    have hplace : (readWords d .between " WHERE ".toList).2 = .between := by cases d <;> decide
    have hsql := k.says_sql (d := d) where_mem_marks 0 h
    rw [List.count_eq_zero.2 k.where_notMem_literals] at hsql
    exact ⟨hword.append_of_between hplace hsql, opens_append (by decide) (by decide)⟩

theorem says_orderClause {order : List (SortKey × Operand)}
    (h : ∀ key ∈ order, IsAlias key.2.qualifier) :
    Says d "WHERE" (orderClause d order) 0 ∧ opens (orderClause d order) = true := by
  have hkey : ∀ key ∈ order, Says d "WHERE" (key.1.clause (key.2.sql d)) 0 := by
    intro key hmem
    have hdirection : Says d "WHERE" key.1.order.keyword 0 :=
      .silent (by cases key.1.order <;> decide) where_mem_marks
    have hordered : Says d "WHERE" (key.2.sql d ++ " " ++ key.1.order.keyword) 0 :=
      (Operand.says_sql (h key hmem) where_mem_marks).separated (by decide) where_mem_marks
        hdirection
    rw [SortKey.clause]
    cases key.1.nulls with
    | none => exact hordered.append .empty opens_empty
    | some nulls =>
      exact hordered.append (.silent (by cases nulls <;> decide) where_mem_marks)
        (by cases nulls <;> decide)
  cases order with
  | nil => exact ⟨.empty, opens_empty⟩
  | cons key order =>
    refine ⟨.prepend (by decide) where_mem_marks (.joined_silent (by decide) where_mem_marks
      fun text htext => ?_), opens_append (by decide) (by decide)⟩
    obtain ⟨key, hmem, rfl⟩ := List.mem_map.1 htext
    exact hkey key hmem

end Sql

open Sql in
theorem PageRequest.says_clause {d : Dialect} (page : PageRequest) :
    Says d "WHERE" page.clause 0 := by
  have hlimit : Says d "WHERE" ("LIMIT " ++ toString page.size.toNat) 0 :=
    .prepend (by decide) where_mem_marks (says_toString _)
  unfold PageRequest.clause
  split
  · exact hlimit.append .empty opens_empty
  · rw [← String.append_assoc]
    exact hlimit.separated (by decide) where_mem_marks (says_toString _)

namespace Sql

variable {d : Dialect}

/-- **Both statements say `WHERE` once, if there is a condition.** -/
theorem says_select {c : Criteria} {js : List Join} {k : Constraint}
    {order : List (SortKey × Operand)} (page : PageRequest)
    (hjoins : ∀ j ∈ c.joins, j.Scoped c.dialect) (hjs : ∀ j ∈ js, j ∈ c.joins)
    (hk : ∀ a ∈ k.operands, IsAlias a.qualifier) (horder : ∀ key ∈ order, IsAlias key.2.qualifier) :
    Says c.dialect "WHERE" (c.select js k order page).sql (if k.isAlways then 0 else 1) ∧
      Says c.dialect "WHERE" (c.select js k order page).countSql (if k.isAlways then 0 else 1) := by
  have hfrom : Says c.dialect "WHERE" c.fromClause 0 := by
    have htable : Says c.dialect "WHERE" (" FROM " ++ identifier c.dialect c.table) 0 :=
      .prepend (by decide) where_mem_marks (says_identifier c.table)
    exact htable.separated (by decide) where_mem_marks (says_alias (.inl rfl) where_mem_marks)
  have hopens : opens c.fromClause = true := by
    rw [Criteria.fromClause, String.append_assoc, String.append_assoc]
    exact opens_append (by decide) (by decide)
  have hbody : ∀ start : String, isSilent start = true → ∀ js : List Join,
      (∀ j ∈ js, j.Scoped c.dialect) → Says c.dialect "WHERE"
        (start ++ c.fromClause ++ joinClauses c.dialect js ++ whereClause c.dialect k)
        (if k.isAlways then 0 else 1) := by
    intro start hstart js hjs
    obtain ⟨hjoined, hopensJoins⟩ := says_joinClauses hjs
    obtain ⟨hwhere, hopensWhere⟩ := says_whereClause (d := c.dialect) hk
    have hstarted : Says c.dialect "WHERE" start 0 := .silent hstart where_mem_marks
    have htables := (hstarted.append hfrom hopens).append hjoined hopensJoins
    simpa using htables.append hwhere hopensWhere
  -- The count statement is such a body; the other one goes on with an order and a page.
  obtain ⟨hordered, hopensOrder⟩ := says_orderClause (d := c.dialect) horder
  have hfull := (hbody ("SELECT " ++ rootAlias ++ ".*") (by decide) c.joins hjoins).append hordered
    hopensOrder
  exact ⟨hfull.separated (by decide) where_mem_marks page.says_clause,
    hbody _ (by decide) js fun j hj => hjoins j (hjs j hj)⟩

/-- Only the condition says `WHERE` here, and it says `FALSE` once. -/
example : bareWords .mySQL
    "SELECT t0.* FROM \x60where\x60 t0 WHERE (t0.\x60where\x60 = ? OR (FALSE AND t0.FALSE > ?))" =
      ["SELECT", "t0", "FROM", "t0", "WHERE", "t0", "OR", "FALSE", "AND", "t0"] := by decide

end Sql

end FilterQuery

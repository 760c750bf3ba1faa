import FilterQuery.Proofs.Rows.Database
import FilterQuery.Proofs.Sql.Names

/-!
# Scanning statements

A lexer that takes a quoted run as one piece and every other character as it stands, but for the
markers of parameters.

* `Piece`, `scan`: the pieces of a text;
* `Writes`: a text has pieces of its own, whatever follows it; **`Writes.append`**,
  `Writes.joined`;
* `writes_identifier`, `writes_placeholder`, `Operand.writes_sql`: names are quoted runs or words,
  and parameters are markers;
* **`Constraint.writes_sql`**: so is all that a constraint consists of.
-/

namespace FilterQuery.Sql

/-! ## The lexer -/

/-- A piece of a statement. -/
inductive Piece where
  /-- The content of a quoted run, its doubled quotes undone. -/
  | name (content : String)
  /-- A dollar sign with the digits after it, or a question mark. -/
  | marker (text : String)
  | plain (c : Char)
deriving DecidableEq, Repr

/-- The characters of a piece that are not in quotes. -/
def Piece.outside : Piece → List Char
  | name _ => []
  | marker text => text.toList
  | plain c => [c]

def Piece.marker? : Piece → Option String
  | marker text => some text
  | _ => none

/-- The pieces of a statement, if each of its quoted runs is closed. -/
def scan (d : Dialect) : List Char → Option (List Piece)
  | [] => some []
  | c :: cs =>
    if c = d.quote then
      match _ : quotedRun d.quote cs with
      | none => none
      | some (content, rest) => (scan d rest).map (.name (.ofList content) :: ·)
    else if c = '$' then
      (scan d (cs.dropWhile Char.isDigit)).map
        (.marker (.ofList ('$' :: cs.takeWhile Char.isDigit)) :: ·)
    else if c = '?' then (scan d cs).map (.marker "?" :: ·)
    else (scan d cs).map (.plain c :: ·)
termination_by cs => cs.length
decreasing_by
  · have hlt := length_quotedRun ‹_›
    simp only [List.length_cons]
    omega
  · have hle := (List.dropWhile_sublist Char.isDigit (l := cs)).length_le
    simp only [List.length_cons]
    omega
  · simp
  · simp

/-- A plain character, or one that a marker starts with. -/
def isCode (c : Char) : Bool := isPlain c || c == '$' || c == '?'

section

variable {d : Dialect} {c : Char} {cs content rest : List Char}

theorem scan_quote (h : quotedRun d.quote cs = some (content, rest)) :
    scan d (d.quote :: cs) = (scan d rest).map (.name (.ofList content) :: ·) := by
  rw [scan, if_pos rfl]
  split
  · rename_i hn
    rw [h] at hn
    cases hn
  · rename_i hn
    rw [h] at hn
    cases hn
    rfl

theorem scan_dollar : scan d ('$' :: cs) =
    (scan d (cs.dropWhile Char.isDigit)).map
      (.marker (.ofList ('$' :: cs.takeWhile Char.isDigit)) :: ·) := by
  rw [scan, if_neg (by cases d <;> decide), if_pos rfl]

theorem scan_question : scan d ('?' :: cs) = (scan d cs).map (.marker "?" :: ·) := by
  rw [scan, if_neg (by cases d <;> decide), if_neg (by decide), if_pos rfl]

theorem scan_plain (h : isPlain c = true) : scan d (c :: cs) = (scan d cs).map (.plain c :: ·) := by
  have hquote : c ≠ d.quote := by
    rintro rfl
    rw [isPlain_quote] at h
    cases h
  have hdollar : c ≠ '$' := by
    rintro rfl
    exact absurd h (by decide)
  have hquestion : c ≠ '?' := by
    rintro rfl
    exact absurd h (by decide)
  rw [scan, if_neg hquote, if_neg hdollar, if_neg hquestion]

end

/-! ## Texts with pieces of their own -/

/-- The text has pieces of its own, whatever follows it of what may follow: quoted runs, code and
these markers. -/
def Writes (d : Dialect) (follow : List Char → Prop) (text : String) (markers : List String) :
    Prop :=
  ∃ ps, (∀ rest, follow rest → scan d (text.toList ++ rest) = (scan d rest).map (ps ++ ·)) ∧
    (∀ p ∈ ps, ∀ c ∈ p.outside, isCode c = true) ∧ ps.filterMap Piece.marker? = markers

/-- No restriction on what follows. -/
def Anything (_ : List Char) : Prop := True

section

variable {d : Dialect} {follow follow' : List Char → Prop} {text text' sep : String}
  {markers markers' : List String} {rest : List Char}

namespace Writes

theorem append (h : Writes d follow text markers) (h' : Writes d follow' text' markers')
    (hf : ∀ rest, follow' rest → follow (text'.toList ++ rest)) :
    Writes d follow' (text ++ text') (markers ++ markers') := by
  obtain ⟨ps, hscan, hcode, rfl⟩ := h
  obtain ⟨ps', hscan', hcode', rfl⟩ := h'
  refine ⟨ps ++ ps', fun rest hr => ?_, ?_, List.filterMap_append⟩
  · rw [String.toList_append, List.append_assoc, hscan _ (hf rest hr), hscan' rest hr,
      Option.map_map]
    simp [Function.comp_def, List.append_assoc]
  · exact List.forall_mem_append.2 ⟨hcode, hcode'⟩

theorem append_code (h : Writes d follow text markers) (h' : Writes d follow' text' [])
    (hf : ∀ rest, follow' rest → follow (text'.toList ++ rest)) :
    Writes d follow' (text ++ text') markers := by
  have happ : Writes d follow' (text ++ text') (markers ++ []) := h.append h' hf
  rwa [List.append_nil] at happ

theorem plain (h : isPlainText text = true) : Writes d follow text [] := by
  rw [isPlainText, List.all_eq_true] at h
  refine ⟨text.toList.map .plain, fun rest _ => ?_, ?_, ?_⟩
  -- One character at a time, whatever the text goes on with.
  · generalize text.toList = cs at h
    induction cs with
    | nil => simp
    | cons c cs ih =>
      obtain ⟨hc, hcs⟩ := List.forall_mem_cons.1 h
      rw [List.cons_append, scan_plain hc, ih hcs]
      simp [Function.comp_def]
  · intro p hp c hc
    obtain ⟨b, hb, rfl⟩ := List.mem_map.1 hp
    rw [List.mem_singleton.1 hc, isCode, h b hb]
    rfl
  · simp [Piece.marker?, Function.comp_def]

theorem empty : Writes d follow "" [] := plain (by decide)

theorem separated (h : Writes d (Ends d) text markers) (hs : isSeparator sep = true) :
    Writes d follow (text ++ sep) markers := by
  have hplain : isPlainText sep = true := by
    rw [isSeparator, Bool.and_eq_true] at hs
    exact hs.1
  exact h.append_code (plain hplain) fun _ _ => Ends.append hs

theorem plain_append (hp : isPlainText text = true)
    (h : Writes d follow text' markers) : Writes d follow (text ++ text') markers :=
  (plain hp : Writes d Anything text []).append h fun _ _ => trivial

theorem then_plain (h : Writes d Anything text markers)
    (hp : isPlainText text' = true) : Writes d follow (text ++ text') markers :=
  h.append_code (plain hp) fun _ _ => trivial

theorem joined {texts : List String} {lists : List (List String)} (hs : isSeparator sep = true)
    (h : List.Forall₂ (Writes d (Ends d)) texts lists) :
    Writes d (Ends d) (Text.joined sep texts) lists.flatten := by
  induction h with
  | nil => exact empty
  | @cons text markers rest lists ht hrest ih =>
    rw [List.flatten_cons]
    cases hrest with
    | nil =>
      rw [List.flatten_nil, List.append_nil]
      exact ht
    | cons =>
      have hfirst : Writes d Anything (text ++ sep) markers := ht.separated hs
      exact hfirst.append ih fun _ _ => trivial

theorem joined_names {texts : List String} (hs : isSeparator sep = true)
    (h : ∀ text ∈ texts, Writes d (Ends d) text []) :
    Writes d (Ends d) (Text.joined sep texts) [] := by
  have hall : List.Forall₂ (Writes d (Ends d)) texts (texts.map fun _ => []) :=
    List.forall₂_map_right_iff.2 (List.forall₂_same.2 h)
  have hjoined := joined hs hall
  rwa [List.flatten_eq_nil_iff.2 (by simp)] at hjoined

end Writes

end

/-! ## Names and parameters -/

variable {d : Dialect}

theorem writes_identifier (name : String) : Writes d (Ends d) (identifier d name) [] := by
  rcases identifier_cases d name with ⟨he, hw⟩ | he
  · rw [he]
    exact .plain (isPlainText_of_isWord hw)
  · rw [he]
    refine ⟨[.name name], fun rest hr => ?_, by simp [Piece.outside], rfl⟩
    have hrun : quotedRun d.quote (doubleQuotes d.quote name.toList ++ d.quote :: rest) =
        some (name.toList, rest) := quotedRun_doubleQuotes fun c hc => (hr c hc).1
    rw [quoted, String.toList_ofList, List.cons_append, List.cons_append, List.append_assoc,
      List.singleton_append, scan_quote hrun, String.ofList_toList]
    rfl

theorem scan_numbered {n : Nat} {rest : List Char} (hr : Ends d rest) :
    scan d ("$".toList ++ (toString n).toList ++ rest) =
      (scan d rest).map (.marker ("$" ++ toString n) :: ·) := by
  have hdigits : ∀ c ∈ (toString n).toList, c.isDigit = true := fun c => isDigit_of_mem_toString
  obtain ⟨htake, hdrop⟩ := span_word hr (fun _ => isWordChar_of_isDigit) hdigits
  have hmarker : String.ofList ('$' :: (toString n).toList) = "$" ++ toString n := by
    rw [← String.toList_inj, String.toList_ofList, String.toList_append]
    rfl
  rw [List.append_assoc]
  change scan d ('$' :: ((toString n).toList ++ rest)) = _
  rw [scan_dollar, htake, hdrop, hmarker]

theorem isCode_of_mem_placeholder {n : Nat} : ∀ c ∈ (d.placeholder n).toList, isCode c = true := by
  rw [← List.all_eq_true]
  cases d with
  | postgreSQL =>
    have hdigits : (toString n).toList.all isCode = true := List.all_eq_true.2 fun c hc => by
      have hword : isWordChar c = true := isWordChar_of_mem (isWord_toString n) c hc
      rw [isCode, isPlain_of_isWordChar hword]
      rfl
    rw [Dialect.placeholder, String.toList_append, List.all_append, hdigits]
    decide
  | mySQL | sqLite =>
    rw [Dialect.placeholder]
    decide

theorem writes_placeholder (n : Nat) : Writes d (Ends d) (d.placeholder n) [d.placeholder n] := by
  refine ⟨[.marker (d.placeholder n)], fun rest hr => ?_, ?_, rfl⟩
  · cases d with
    | postgreSQL =>
      rw [Dialect.placeholder, String.toList_append]
      exact scan_numbered hr
    | mySQL | sqLite =>
      rw [Dialect.placeholder]
      exact scan_question
  · rw [List.forall_mem_singleton]
    exact isCode_of_mem_placeholder

theorem Operand.writes_sql {a : Operand} (h : IsAlias a.qualifier) :
    Writes d (Ends d) (a.sql d) [] := by
  induction a with
  | column qualifier name =>
    have hqualifier : isPlainText qualifier = true := isPlainText_of_isWord (IsAlias.isWord h)
    have hdot : isPlainText (qualifier ++ ".") = true := by
      rw [isPlainText_append, hqualifier]
      decide
    exact (writes_identifier name).plain_append hdot
  | lower a ih => exact ((ih h).plain_append (by decide)).separated (by decide)
  | instant a ih =>
    cases d with
    | postgreSQL | mySQL | sqLite => exact ((ih h).plain_append (by decide)).separated (by decide)
  | size a ih =>
    have hword : isPlainText (Operand.sizeFunction d ++ "(") = true := by cases d <;> decide
    exact ((ih h).plain_append hword).separated (by decide)

/-! ## Constraints -/

namespace Constraint

theorem placeholders_add (n a b : Nat) :
    placeholders d n (a + b) = placeholders d n a ++ placeholders d (n + a) b := by
  induction a generalizing n with
  | zero => rw [Nat.zero_add, placeholders, List.nil_append, Nat.add_zero]
  | succ a ih =>
    rw [Nat.succ_add, placeholders, placeholders, ih, List.cons_append, Nat.succ_add_eq_add_succ]

theorem writes_joined_placeholders (n count : Nat) :
    Writes d (Ends d) (Text.joined ", " (placeholders d n count)) (placeholders d n count) := by
  have hall : List.Forall₂ (Writes d (Ends d)) (placeholders d n count)
      ((placeholders d n count).map fun text => [text]) := by
    rw [List.forall₂_map_right_iff, List.forall₂_same]
    induction count generalizing n with
    | zero => exact fun _ hm => absurd hm List.not_mem_nil
    | succ count ih => exact List.forall_mem_cons.2 ⟨writes_placeholder (n + 1), ih (n + 1)⟩
  have hjoined : Writes d (Ends d) (Text.joined ", " (placeholders d n count)) _ :=
    .joined (by decide) hall
  rwa [← List.flatMap_def, List.flatMap_singleton'] at hjoined

theorem writes_compare {operand : String} (h : Writes d (Ends d) operand []) (n : Nat)
    (c : Comparison) :
    Writes d (Ends d) (operand ++ " " ++ c.sign ++ " " ++ d.placeholder (n + 1))
      (placeholders d n 1) := by
  have hsign : Writes d Anything (operand ++ " " ++ c.sign ++ " ") [] := by
    have hop : Writes d (Ends d) (operand ++ " " ++ c.sign) [] := by
      rw [String.append_assoc]
      exact h.separated (by cases c <;> decide)
    exact hop.separated (by decide)
  exact hsign.append (writes_placeholder (n + 1)) fun _ _ => trivial

theorem compare_cases (c : Comparison) (v : Value) : (c = .eq ∧ v = .null) ∨ (c = .ne ∧ v = .null) ∨
    (testParams (.compare c v) = [v] ∧ ∀ d n operand, testSql d n operand (.compare c v) =
      operand ++ " " ++ c.sign ++ " " ++ d.placeholder (n + 1)) := by
  cases c <;> cases v <;> simp [testParams, testSql, Test.values]

theorem writes_testSql {operand : String} (h : Writes d (Ends d) operand []) (n : Nat) (t : Test) :
    Writes d (Ends d) (testSql d n operand t) (placeholders d n (testParams t).length) := by
  cases t with
  | compare c v =>
    rcases compare_cases c v with ⟨rfl, rfl⟩ | ⟨rfl, rfl⟩ | ⟨hparams, hsql⟩
    · exact h.separated (by decide)
    · exact h.separated (by decide)
    · rw [hparams, hsql]
      exact writes_compare h n c
  | like pattern =>
    have hlike : Writes d Anything (operand ++ " LIKE ") [] := h.separated (by decide)
    exact hlike.append (writes_placeholder (n + 1)) fun _ _ => trivial
  | isIn vs =>
    cases vs with
    | nil =>
      rw [testSql]
      exact .plain (by decide)
    | cons v vs =>
      have hopen : Writes d Anything (operand ++ " IN (") [] := h.separated (by decide)
      have hlist : Writes d (Ends d) _ (placeholders d n (vs.length + 1)) :=
        hopen.append (writes_joined_placeholders n (vs.length + 1)) fun _ _ => trivial
      exact hlist.separated (by decide)
  | between low high =>
    have hbetween : Writes d Anything (operand ++ " BETWEEN ") [] := h.separated (by decide)
    have hlow : Writes d Anything (operand ++ " BETWEEN " ++ d.placeholder (n + 1) ++ " AND ")
        [d.placeholder (n + 1)] :=
      (hbetween.append (writes_placeholder (n + 1)) fun _ _ => trivial).separated (by decide)
    exact hlow.append (writes_placeholder (n + 2)) fun _ _ => trivial
  | isNull | isNotNull => exact h.separated (by decide)

mutual

/-- **A constraint is written in code, quoted names and markers**, one marker for each value it
binds, in order. -/
theorem writes_sql : ∀ (k : Constraint) (n : Nat), (∀ a ∈ k.operands, IsAlias a.qualifier) →
    Writes d (Ends d) (k.sql d n) (placeholders d n k.params.length)
  | always, n, _ => by
    rw [sql]
    exact .plain (by decide)
  | test a t, n, h => writes_testSql (Operand.writes_sql (h a List.mem_cons_self)) n t
  | all [], n, _ => by
    rw [sql]
    exact .plain (by decide)
  | any [], n, _ => by
    rw [sql]
    exact .plain (by decide)
  | all (c :: cs), n, h => by
    obtain ⟨lists, hall, hflat⟩ := writes_sqlOf (c :: cs) n h
    rw [params, ← hflat]
    exact ((Writes.joined (by decide) hall).plain_append (by decide)).separated (by decide)
  | any (c :: cs), n, h => by
    obtain ⟨lists, hall, hflat⟩ := writes_sqlOf (c :: cs) n h
    rw [params, ← hflat]
    exact ((Writes.joined (by decide) hall).plain_append (by decide)).separated (by decide)
  | neg k, n, h => ((writes_sql k n h).plain_append (by decide)).separated (by decide)

theorem writes_sqlOf : ∀ (cs : List Constraint) (n : Nat),
    (∀ a ∈ operandsOf cs, IsAlias a.qualifier) →
    ∃ lists, List.Forall₂ (Writes d (Ends d)) (sqlOf d n cs) lists ∧
      lists.flatten = placeholders d n (paramsOf cs).length
  | [], _, _ => ⟨[], .nil, rfl⟩
  | c :: cs, n, h => by
    rw [operandsOf, List.forall_mem_append] at h
    obtain ⟨lists, hall, hflat⟩ := writes_sqlOf cs (n + c.params.length) h.2
    refine ⟨_ :: lists, .cons (writes_sql c n h.1) hall, ?_⟩
    rw [List.flatten_cons, hflat, paramsOf, List.length_append, placeholders_add]

end

end Constraint

end FilterQuery.Sql

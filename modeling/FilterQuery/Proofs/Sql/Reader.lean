import FilterQuery.Proofs.Sql.Scan

/-!
# Reading constraints

A reader of constraints from their text and the values to bind.

* `Cursor`, `Cursor.after`: what is left of a text, with the number of values met so far;
* `readOperand`, `readValue`, `readTest`: the parts of a constraint; **`readOperand_sql`**,
  `readValue_placeholder`, **`readTest_sql`**: each is read from its text;
* `readConstraint`, **`Constraint.read`**: a whole constraint.
-/

namespace FilterQuery.Sql

/-- A place in a text: what is left of it, and the number of values met before. -/
structure Cursor where
  text : List Char
  met : Nat := 0

/-- The place after a given start. -/
def Cursor.after (start : String) (cur : Cursor) : Option Cursor :=
  (start.toList.isPrefixOf? cur.text).map fun rest => ⟨rest, cur.met⟩

namespace Cursor

variable {start : String} {cs rest : List Char} {met : Nat}

theorem after_append : Cursor.after start ⟨start.toList ++ rest, met⟩ = some ⟨rest, met⟩ := by
  have h : start.toList.isPrefixOf? (start.toList ++ rest) = some rest :=
    List.isPrefixOf?_eq_some_iff_append_eq.2 rfl
  simp only [after, h, Option.map_some]

/-- Two texts have different characters at one place. -/
def differ : List Char → List Char → Bool
  | c :: cs, c' :: cs' => c != c' || differ cs cs'
  | _, _ => false

theorem append_ne_of_differ {cs' rest' : List Char} (h : differ cs cs' = true) :
    cs ++ rest ≠ cs' ++ rest' := by
  induction cs generalizing cs' with
  | nil => simp [differ] at h
  | cons c cs ih =>
    cases cs' with
    | nil => simp [differ] at h
    | cons c' cs' =>
      rw [differ, Bool.or_eq_true, bne_iff_ne] at h
      intro e
      obtain ⟨hc, hcs⟩ := List.cons.inj e
      rcases h with h | h
      · exact h hc
      · exact ih h hcs

theorem after_eq_none (h : differ start.toList cs = true) :
    Cursor.after start ⟨cs ++ rest, met⟩ = none := by
  cases hs : start.toList.isPrefixOf? (cs ++ rest) with
  | none => simp only [after, hs, Option.map_none]
  | some rest' => exact absurd (List.isPrefixOf?_eq_some_iff_append_eq.1 hs) (append_ne_of_differ h)

end Cursor

/-! ## Operands -/

/-- The word at the start of a text, which may be empty, and what follows it. -/
def readWord (cs : List Char) : String × List Char :=
  (.ofList (cs.takeWhile isWordChar), cs.dropWhile isWordChar)

/-- The name of a column: a quoted run, or a word. -/
def readName (d : Dialect) (cs : List Char) : Option (String × List Char) :=
  if cs.head? = some d.quote then
    (quotedRun d.quote cs.tail).map fun run => (.ofList run.1, run.2)
  else some (readWord cs)

/-- What stands around an operand that is read as an instant. -/
def castWords : Dialect → String × String
  | .postgreSQL => ("CAST", " AS TIMESTAMPTZ)")
  | .mySQL => ("CAST", " AS DATETIME)")
  | .sqLite => ("datetime", ")")

theorem castInstant_eq (inner : String) (d : Dialect) :
    Operand.castInstant inner d = (castWords d).1 ++ "(" ++ inner ++ (castWords d).2 := by
  cases d <;> rfl

/-- The functions of operands: their names, what stands after the operand inside, and what they
make of it. -/
def functions (d : Dialect) : List (String × String × (Operand → Operand)) :=
  [("LOWER", ")", .lower), ((castWords d).1, (castWords d).2, .instant),
    (Operand.sizeFunction d, ")", .size)]

/-- An operand: a word with a name after a dot, or with an operand in brackets. -/
def readOperand (d : Dialect) : Nat → Cursor → Option (Operand × Cursor)
  | 0, _ => none
  | fuel + 1, cur =>
    let (word, rest) := readWord cur.text
    match rest with
    | '.' :: rest => (readName d rest).map fun (name, rest) => (.column word name, ⟨rest, cur.met⟩)
    | '(' :: rest => do
      let (close, wrap) ← (functions d).lookup word
      let (a, cur) ← readOperand d fuel ⟨rest, cur.met⟩
      return (wrap a, ← cur.after close)
    | _ => none

section

variable {d : Dialect} {rest : List Char} {met : Nat}

theorem readWord_append {word : String} (hr : Ends d rest)
    (hw : isWord word = true) : readWord (word.toList ++ rest) = (word, rest) := by
  obtain ⟨htake, hdrop⟩ := span_word hr (fun _ h => h) (isWordChar_of_mem hw)
  rw [readWord, htake, hdrop, String.ofList_toList]

theorem readName_identifier (name : String) (hr : Ends d rest) :
    readName d ((identifier d name).toList ++ rest) = some (name, rest) := by
  rcases identifier_cases d name with ⟨he, hw⟩ | he
  · have hhead : (name.toList ++ rest).head? ≠ some d.quote := by
      intro h
      cases hn : name.toList with
      | nil =>
        rw [hn] at h
        exact (hr d.quote h).1 rfl
      | cons c cs =>
        rw [hn] at h
        have hc : isWordChar c = true := isWordChar_of_mem hw c (by simp [hn])
        rw [Option.some.inj h, isWordChar_quote] at hc
        cases hc
    rw [he, readName, if_neg hhead, readWord_append hr hw]
  · have hrun : quotedRun d.quote (doubleQuotes d.quote name.toList ++ d.quote :: rest) =
        some (name.toList, rest) := quotedRun_doubleQuotes fun c hc => (hr c hc).1
    have htext : (identifier d name).toList ++ rest =
        d.quote :: (doubleQuotes d.quote name.toList ++ d.quote :: rest) := by
      simp [he, quoted]
    rw [htext, readName, List.head?_cons, if_pos rfl, List.tail_cons, hrun, Option.map_some,
      String.ofList_toList]

theorem readOperand_call {fuel : Nat} {word inner close : String} {wrap : Operand → Operand}
    {a : Operand} (hf : (functions d).lookup word = some (close, wrap))
    (hw : isWord word = true) (hc : isSeparator close = true)
    (ha : ∀ fuel rest, inner.length < fuel → Ends d rest →
      readOperand d fuel ⟨inner.toList ++ rest, met⟩ = some (a, ⟨rest, met⟩))
    (hlen : (word ++ "(" ++ inner ++ close).length < fuel) :
    readOperand d fuel ⟨(word ++ "(" ++ inner ++ close).toList ++ rest, met⟩ =
      some (wrap a, ⟨rest, met⟩) := by
  obtain ⟨fuel, rfl⟩ := Nat.exists_eq_succ_of_ne_zero (Nat.ne_of_gt (Nat.zero_lt_of_lt hlen))
  have hopen : Ends d ("(".toList ++ (inner.toList ++ (close.toList ++ rest))) :=
    Ends.append (by decide)
  have hword : readWord ((word ++ "(" ++ inner ++ close).toList ++ rest) =
      (word, '(' :: (inner.toList ++ (close.toList ++ rest))) := by
    simp only [String.toList_append, List.append_assoc]
    rw [readWord_append hopen hw]
    rfl
  have hinner : readOperand d fuel ⟨inner.toList ++ (close.toList ++ rest), met⟩ =
      some (a, ⟨close.toList ++ rest, met⟩) := by
    refine ha fuel _ ?_ (Ends.append hc)
    have hbracket : ("(" : String).length = 1 := rfl
    simp only [String.length_append] at hlen
    omega
  simp only [readOperand, hword, hf, hinner, Option.bind_eq_bind, Option.bind_some,
    Cursor.after_append, Option.pure_def]

theorem readOperand_sql {a : Operand} (ha : IsAlias a.qualifier) {fuel : Nat} {rest : List Char}
    (hf : (a.sql d).length < fuel) (hr : Ends d rest) :
    readOperand d fuel ⟨(a.sql d).toList ++ rest, met⟩ = some (a, ⟨rest, met⟩) := by
  induction a generalizing fuel rest with
  | column qualifier name =>
    obtain ⟨fuel, rfl⟩ := Nat.exists_eq_succ_of_ne_zero (Nat.ne_of_gt (Nat.zero_lt_of_lt hf))
    have hq : isWord qualifier = true := IsAlias.isWord ha
    have hdot : Ends d (".".toList ++ ((identifier d name).toList ++ rest)) :=
      Ends.append (by decide)
    have hword : readWord ((Operand.sql d (.column qualifier name)).toList ++ rest) =
        (qualifier, '.' :: ((identifier d name).toList ++ rest)) := by
      simp only [Operand.sql, String.toList_append, List.append_assoc]
      rw [readWord_append hdot hq]
      generalize (identifier d name).toList ++ rest = name
      rfl
    simp only [readOperand, hword, readName_identifier name hr, Option.map_some]
  | lower a ih =>
    have hsql : Operand.sql d (.lower a) = "LOWER" ++ "(" ++ a.sql d ++ ")" := rfl
    rw [hsql] at hf ⊢
    exact readOperand_call rfl (by decide) (by decide) (fun _ _ => ih ha) hf
  | instant a ih =>
    have hlookup : (functions d).lookup (castWords d).1 = some ((castWords d).2, .instant) := by
      cases d <;> rfl
    have hw : isWord (castWords d).1 = true := by cases d <;> decide
    have hc : isSeparator (castWords d).2 = true := by cases d <;> decide
    rw [Operand.sql, castInstant_eq] at hf ⊢
    exact readOperand_call hlookup hw hc (fun _ _ => ih ha) hf
  | size a ih =>
    have hlookup : (functions d).lookup (Operand.sizeFunction d) = some (")", .size) := by
      cases d <;> rfl
    have hw : isWord (Operand.sizeFunction d) = true := by cases d <;> decide
    exact readOperand_call hlookup hw (by decide) (fun _ _ => ih ha) hf

end

/-! ## Tests -/

section

variable (d : Dialect) (values : List Value)

/-- A marker, as the value that it stands for: the one with its number, or the next one. -/
def readValue (cur : Cursor) : Option (Value × Cursor) :=
  match d with
  | .postgreSQL => do
    let next ← cur.after "$"
    let v ← values[Text.digitsValue (next.text.takeWhile Char.isDigit) - 1]?
    return (v, ⟨next.text.dropWhile Char.isDigit, cur.met + 1⟩)
  | .mySQL | .sqLite => do
    let next ← cur.after "?"
    let v ← values[cur.met]?
    return (v, ⟨next.text, cur.met + 1⟩)

/-- The values of a list, up to its closing bracket. -/
def readValues : Nat → Cursor → Option (List Value × Cursor)
  | 0, _ => none
  | fuel + 1, cur => do
    let (v, cur) ← readValue d values cur
    ((cur.after ")").map fun cur => ([v], cur)) <|> do
      let (vs, cur) ← readValues fuel (← cur.after ", ")
      return (v :: vs, cur)

/-- A comparison with a value. -/
def readComparison (cur : Cursor) (c : Comparison) : Option (Test × Cursor) := do
  let (v, cur) ← readValue d values (← cur.after (" " ++ c.sign ++ " "))
  return (.compare c v, cur)

/-- What is asked of an operand that has been read. -/
def readTest (fuel : Nat) (cur : Cursor) : Option (Test × Cursor) :=
  ((cur.after " IS NULL").map fun cur => (.isNull, cur)) <|>
  ((cur.after " IS NOT NULL").map fun cur => (.isNotNull, cur)) <|>
  (do
    let (.text pattern, cur) ← readValue d values (← cur.after " LIKE ") | none
    return (.like pattern, cur)) <|>
  (do
    let (vs, cur) ← readValues d values fuel (← cur.after " IN (")
    return (.isIn vs, cur)) <|>
  -- The word between the two ends is taken here: it never comes to stand between constraints.
  (do
    let (low, cur) ← readValue d values (← cur.after " BETWEEN ")
    let (high, cur) ← readValue d values (← cur.after " AND ")
    return (.between low high, cur)) <|>
  Comparison.all.findSome? (readComparison d values cur)

end

section

variable {d : Dialect} {values : List Value} {rest : List Char} {met : Nat}

theorem prefix_drop_append {vs ws values : List Value} {n : Nat} (h : vs ++ ws <+: values.drop n) :
    vs <+: values.drop n ∧ ws <+: values.drop (n + vs.length) := by
  obtain ⟨rest, hrest⟩ := h
  rw [List.append_assoc] at hrest
  refine ⟨⟨_, hrest⟩, rest, ?_⟩
  rw [← List.drop_drop, ← hrest, List.drop_left]

theorem getElem?_of_prefix {v : Value} {vs values : List Value} {n : Nat}
    (h : v :: vs <+: values.drop n) : values[n]? = some v ∧ vs <+: values.drop (n + 1) := by
  rw [← List.singleton_append] at h
  obtain ⟨hv, hvs⟩ := prefix_drop_append h
  refine ⟨?_, hvs⟩
  obtain ⟨rest, hrest⟩ := hv
  have hget : (values.drop n)[0]? = some v := by rw [← hrest]; rfl
  rwa [List.getElem?_drop, Nat.add_zero] at hget

theorem readValue_placeholder {v : Value} (hv : values[met]? = some v) (hr : Ends d rest) :
    readValue d values ⟨(d.placeholder (met + 1)).toList ++ rest, met⟩ =
      some (v, ⟨rest, met + 1⟩) := by
  cases d with
  | postgreSQL =>
    have hdigits : ∀ c ∈ (toString (met + 1)).toList, c.isDigit = true :=
      fun c => isDigit_of_mem_toString
    obtain ⟨htake, hdrop⟩ := span_word hr (fun _ => isWordChar_of_isDigit) hdigits
    have hnumber : Text.digitsValue (toString (met + 1)).toList = met + 1 := by
      rw [Nat.toString_eq_ofList_toDigits, String.toList_ofList, Text.digitsValue_toDigits]
    simp only [readValue, Dialect.placeholder, String.toList_append, List.append_assoc,
      Cursor.after_append, htake, hdrop, hnumber, Nat.add_sub_cancel, hv, Option.bind_eq_bind,
      Option.bind_some, Option.pure_def]
  | mySQL | sqLite =>
    simp only [readValue, Dialect.placeholder, Cursor.after_append, hv, Option.bind_eq_bind,
      Option.bind_some, Option.pure_def]

theorem readValues_sql {vs : List Value} {fuel : Nat} (hne : vs ≠ [])
    (h : vs <+: values.drop met)
    (hf : (Text.joined ", " (Constraint.placeholders d met vs.length)).length < fuel) :
    readValues d values fuel ⟨(Text.joined ", " (Constraint.placeholders d met vs.length)).toList ++
      (")".toList ++ rest), met⟩ = some (vs, ⟨rest, met + vs.length⟩) := by
  induction vs generalizing met fuel with
  | nil => exact absurd rfl hne
  | cons v vs ih =>
    obtain ⟨fuel, rfl⟩ := Nat.exists_eq_succ_of_ne_zero (Nat.ne_of_gt (Nat.zero_lt_of_lt hf))
    obtain ⟨hv, hvs⟩ := getElem?_of_prefix h
    cases vs with
    | nil =>
      have hclose : Ends d (")".toList ++ rest) := Ends.append (by decide)
      have hvalue := readValue_placeholder hv hclose
      simp only [Constraint.placeholders, List.length_cons, List.length_nil, Text.joined,
        readValues, hvalue, Option.bind_eq_bind, Option.bind_some, Cursor.after_append,
        Option.map_some, Option.orElse_eq_orElse, Option.orElse_eq_or, Option.some_or]
    | cons w vs =>
      let others := Text.joined ", " (Constraint.placeholders d (met + 1) (w :: vs).length)
      have htext : Text.joined ", " (Constraint.placeholders d met (v :: w :: vs).length) =
          d.placeholder (met + 1) ++ ", " ++ others := rfl
      rw [htext] at hf ⊢
      have hlen : others.length < fuel := by
        have hcomma : ", ".length = 2 := rfl
        simp only [String.length_append] at hf
        omega
      have hmet : met + 1 + (w :: vs).length = met + (v :: w :: vs).length := by
        simp only [List.length_cons]
        omega
      have hothers : readValues d values fuel ⟨others.toList ++ (")".toList ++ rest), met + 1⟩ =
          some (w :: vs, ⟨rest, met + (v :: w :: vs).length⟩) := by
        rw [← hmet]
        exact ih (by simp) hvs hlen
      have hcomma : Ends d (", ".toList ++ (others.toList ++ (")".toList ++ rest))) :=
        Ends.append (by decide)
      simp only [String.toList_append, List.append_assoc, readValues,
        readValue_placeholder hv hcomma, Option.bind_eq_bind, Option.bind_some]
      simp (disch := decide) only [Cursor.after_append, Cursor.after_eq_none, Option.map_none,
        Option.orElse_eq_orElse, Option.orElse_eq_or, Option.none_or, Option.bind_some, hothers,
        Option.pure_def]

theorem readComparison_sql {c : Comparison} {v : Value} (hv : values[met]? = some v)
    (hr : Ends d rest) : Comparison.all.findSome? (readComparison d values
      ⟨(" " ++ c.sign ++ " ").toList ++ ((d.placeholder (met + 1)).toList ++ rest), met⟩) =
        some (.compare c v, ⟨rest, met + 1⟩) := by
  have hread : ∀ c', readComparison d values
      ⟨(" " ++ c.sign ++ " ").toList ++ ((d.placeholder (met + 1)).toList ++ rest), met⟩ c' =
        if c' = c then some (.compare c v, ⟨rest, met + 1⟩) else none := by
    intro c'
    split
    · rename_i he
      subst he
      simp only [readComparison, Cursor.after_append, readValue_placeholder hv hr,
        Option.bind_eq_bind, Option.bind_some, Option.pure_def]
    · rename_i hne
      have hdiffer : Cursor.differ (" " ++ c'.sign ++ " ").toList (" " ++ c.sign ++ " ").toList =
          true := by
        revert hne
        cases c' <;> cases c <;> decide
      rw [readComparison, Cursor.after_eq_none hdiffer]
      rfl
  simp only [Comparison.all, List.findSome?_cons, hread]
  cases c <;> rfl

/-- A comparison with null as the null test that it is. -/
def readsAs : Test → Test
  | .compare .eq .null => .isNull
  | .compare .ne .null => .isNotNull
  | t => t

theorem readsAs_compare {c : Comparison} {v : Value}
    (h : Constraint.testParams (.compare c v) = [v]) : readsAs (.compare c v) = .compare c v := by
  cases c <;> cases v <;> first | rfl | cases h

/-- The test is written with this text after its operand, and is read from it. -/
structure TestText (d : Dialect) (values : List Value) (met : Nat) (rest : List Char) (t : Test)
    (tail : String) : Prop where
  sql : ∀ operand, Constraint.testSql d met operand t = operand ++ tail
  ends : Ends d (tail.toList ++ rest)
  reads : ∀ fuel, tail.length < fuel → readTest d values fuel ⟨tail.toList ++ rest, met⟩ =
    some (readsAs t, ⟨rest, met + (Constraint.testParams t).length⟩)

theorem readTest_isNull {fuel : Nat} :
    readTest d values fuel ⟨" IS NULL".toList ++ rest, met⟩ = some (.isNull, ⟨rest, met⟩) := by
  simp only [readTest, Cursor.after_append, Option.map_some, Option.orElse_eq_orElse,
    Option.orElse_eq_or, Option.some_or]

theorem readTest_isNotNull {fuel : Nat} :
    readTest d values fuel ⟨" IS NOT NULL".toList ++ rest, met⟩ =
      some (.isNotNull, ⟨rest, met⟩) := by
  simp (disch := decide) only [readTest, Cursor.after_append, Cursor.after_eq_none,
    Option.map_some, Option.map_none, Option.orElse_eq_orElse, Option.orElse_eq_or,
    Option.some_or, Option.none_or]

theorem testText_compare {c : Comparison} {v : Value}
    (h : Constraint.testParams (.compare c v) <+: values.drop met) (hr : Ends d rest) :
    ∃ tail, TestText d values met rest (.compare c v) tail := by
  rcases Constraint.compare_cases c v with ⟨rfl, rfl⟩ | ⟨rfl, rfl⟩ | ⟨hparams, hsql⟩
  · exact ⟨" IS NULL", fun _ => rfl, Ends.append (by decide), fun _ _ => readTest_isNull⟩
  · exact ⟨" IS NOT NULL", fun _ => rfl, Ends.append (by decide), fun _ _ => readTest_isNotNull⟩
  · rw [hparams] at h
    obtain ⟨hv, -⟩ := getElem?_of_prefix h
    have hsep : isSeparator (" " ++ c.sign ++ " ") = true := by cases c <;> decide
    have hother : ∀ start ∈ [" IS NULL", " IS NOT NULL", " LIKE ", " IN (", " BETWEEN "],
        Cursor.after start ⟨(" " ++ c.sign ++ " ").toList ++
          ((d.placeholder (met + 1)).toList ++ rest), met⟩ = none := by
      intro start hstart
      refine Cursor.after_eq_none ?_
      revert start
      cases c <;> decide
    simp only [List.forall_mem_cons] at hother
    obtain ⟨h₁, h₂, h₃, h₄, h₅, -⟩ := hother
    refine ⟨" " ++ c.sign ++ " " ++ d.placeholder (met + 1), fun operand => ?_, Ends.text hsep,
      fun fuel _ => ?_⟩
    · rw [hsql]
      simp only [String.append_assoc]
    · rw [String.toList_append, List.append_assoc, hparams, readsAs_compare hparams]
      simp only [readTest, h₁, h₂, h₃, h₄, h₅, readComparison_sql hv hr, Option.map_none,
        Option.orElse_eq_orElse, Option.orElse_eq_or, Option.none_or, Option.bind_eq_bind,
        Option.bind_none]
      rfl

theorem testText_like {pattern : String}
    (h : Constraint.testParams (.like pattern) <+: values.drop met) (hr : Ends d rest) :
    TestText d values met rest (.like pattern) (" LIKE " ++ d.placeholder (met + 1)) := by
  obtain ⟨hv, -⟩ := getElem?_of_prefix h
  refine ⟨fun _ => String.append_assoc .., Ends.text (by decide), fun fuel _ => ?_⟩
  rw [String.toList_append, List.append_assoc]
  simp (disch := decide) only [readTest, Cursor.after_append, Cursor.after_eq_none,
    readValue_placeholder hv hr, Option.map_none, Option.orElse_eq_orElse, Option.orElse_eq_or,
    Option.some_or, Option.none_or, Option.bind_eq_bind, Option.bind_some, Option.pure_def]
  rfl

theorem testText_isIn {vs : List Value} (hne : vs ≠ [])
    (h : Constraint.testParams (.isIn vs) <+: values.drop met) :
    TestText d values met rest (.isIn vs)
      (" IN (" ++ (Text.joined ", " (Constraint.placeholders d met vs.length) ++ ")")) := by
  refine ⟨fun _ => ?_, Ends.text (by decide), fun fuel hf => ?_⟩
  · cases vs with
    | nil => exact absurd rfl hne
    | cons v vs => simp only [Constraint.testSql, String.append_assoc]
  · have hlist : (Text.joined ", " (Constraint.placeholders d met vs.length)).length < fuel := by
      simp only [String.length_append] at hf
      omega
    simp (disch := decide) only [String.toList_append, List.append_assoc, readTest,
      Cursor.after_append, Cursor.after_eq_none, readValues_sql hne h hlist, Option.map_none,
      Option.orElse_eq_orElse, Option.orElse_eq_or, Option.some_or, Option.none_or,
      Option.bind_eq_bind, Option.bind_some, Option.bind_none, Option.pure_def]
    rfl

theorem testText_between {low high : Value}
    (h : Constraint.testParams (.between low high) <+: values.drop met) (hr : Ends d rest) :
    TestText d values met rest (.between low high) (" BETWEEN " ++ (d.placeholder (met + 1) ++
      (" AND " ++ d.placeholder (met + 2)))) := by
  obtain ⟨hlow, hrest⟩ := getElem?_of_prefix h
  obtain ⟨hhigh, -⟩ := getElem?_of_prefix hrest
  have hand : Ends d (" AND ".toList ++ ((d.placeholder (met + 2)).toList ++ rest)) :=
    Ends.append (by decide)
  refine ⟨fun _ => ?_, Ends.text (by decide), fun fuel _ => ?_⟩
  · simp only [Constraint.testSql, String.append_assoc]
  · simp (disch := decide) only [String.toList_append, List.append_assoc, readTest,
      Cursor.after_append, Cursor.after_eq_none, readValue_placeholder hlow hand,
      readValue_placeholder hhigh hr, Option.map_none, Option.orElse_eq_orElse,
      Option.orElse_eq_or, Option.some_or, Option.none_or, Option.bind_eq_bind, Option.bind_some,
      Option.bind_none, Option.pure_def]
    rfl

/-- **A test is read from what stands after its operand.** -/
theorem readTest_sql {t : Test} (ht : t ≠ .isIn [])
    (h : Constraint.testParams t <+: values.drop met) (hr : Ends d rest) :
    ∃ tail, TestText d values met rest t tail := by
  cases t with
  | isNull => exact ⟨" IS NULL", fun _ => rfl, Ends.append (by decide), fun _ _ => readTest_isNull⟩
  | isNotNull =>
    exact ⟨" IS NOT NULL", fun _ => rfl, Ends.append (by decide), fun _ _ => readTest_isNotNull⟩
  | compare c v => exact testText_compare h hr
  | like pattern => exact ⟨_, testText_like h hr⟩
  | isIn vs => exact ⟨_, testText_isIn (fun e => ht (congrArg Test.isIn e)) h⟩
  | between low high => exact ⟨_, testText_between h hr⟩

end

/-! ## Constraints -/

section

variable (d : Dialect) (values : List Value)

mutual

/-- A constraint. In brackets are constraints with one word between each two of them. -/
def readConstraint : Nat → Cursor → Option (Constraint × Cursor)
  | 0, _ => none
  | fuel + 1, cur =>
    ((cur.after "TRUE").map fun cur => (.always, cur)) <|>
    ((cur.after "FALSE").map fun cur => (.any [], cur)) <|>
    (do
      let (k, cur) ← readConstraint fuel (← cur.after "NOT (")
      return (.neg k, ← cur.after ")")) <|>
    (do
      let (k, cur) ← readConstraint fuel (← cur.after "(")
      ((cur.after ")").map fun cur => (k, cur)) <|>
        ((readOthers " AND " fuel cur).map fun (ks, cur) => (.all (k :: ks), cur)) <|>
        ((readOthers " OR " fuel cur).map fun (ks, cur) => (.any (k :: ks), cur))) <|>
    (do
      let (a, cur) ← readOperand d (fuel + 1) cur
      let (t, cur) ← readTest d values (fuel + 1) cur
      return (.test a t, cur))

/-- Constraints after the first one, each after the same word, up to the closing bracket. -/
def readOthers (word : String) : Nat → Cursor → Option (List Constraint × Cursor)
  | 0, _ => none
  | fuel + 1, cur => do
    let (k, cur) ← readConstraint fuel (← cur.after word)
    ((cur.after ")").map fun cur => ([k], cur)) <|>
      ((readOthers word fuel cur).map fun (ks, cur) => (k :: ks, cur))

end

end

/-- The constraint that a text with these values stands for. Nothing is left of the text, and no
value. -/
def Constraint.read (d : Dialect) (text : String) (values : List Value) : Option Constraint :=
  -- Every step into a part leaves out a bracket or a word, so the length is depth enough.
  match readConstraint d values (text.length + 1) ⟨text.toList, 0⟩ with
  | some (k, ⟨[], met⟩) => if met = values.length then some k else none
  | _ => none

end FilterQuery.Sql

import FilterQuery.Proofs.Sql.Joins
import FilterQuery.Proofs.Text.Numerals

/-!
# Names in the text

How an identifier is told from the text around it.

* `quotedRun`: reading a quoted run, two quotes for one; **`quotedRun_doubleQuotes`**: it undoes the
  quoting of a name;
* `isWord`, `identifier_cases`: an identifier is a word or a quoted run; `Ends`: where either of
  them ends;
* `isPlainText`, `isSeparator`: texts without quotes, and those that may stand after a name;
* `IsAlias`: the aliases that tables have; they are words.
-/

namespace FilterQuery.Sql

/-! ## Quoted runs -/

/-- The content of a quoted run that has been opened, two quotes for one, and what follows the run.
There is none if the run is not closed. -/
def quotedRun (quote : Char) : List Char → Option (List Char × List Char)
  | [] => none
  | [c] => if c = quote then some ([], []) else none
  | c :: c' :: cs =>
    if c = quote then
      if c' = quote then (quotedRun quote cs).map fun run => (quote :: run.1, run.2)
      else some ([], c' :: cs)
    else (quotedRun quote (c' :: cs)).map fun run => (c :: run.1, run.2)

section

variable {quote c : Char} {cs content rest : List Char}

theorem quotedRun_cons (h : c ≠ quote) :
    quotedRun quote (c :: cs) = (quotedRun quote cs).map fun run => (c :: run.1, run.2) := by
  cases cs <;> simp [quotedRun, h]

theorem quotedRun_close (h : ∀ c ∈ rest.head?, c ≠ quote) :
    quotedRun quote (quote :: rest) = some ([], rest) := by
  cases rest with
  | nil => simp [quotedRun]
  | cons c rest => simp [quotedRun, h c rfl]

/-- **Reading a quoted name gives the name back.** -/
theorem quotedRun_doubleQuotes (h : ∀ c ∈ rest.head?, c ≠ quote) :
    quotedRun quote (doubleQuotes quote cs ++ quote :: rest) = some (cs, rest) := by
  induction cs with
  | nil => exact quotedRun_close h
  | cons c cs ih =>
    unfold doubleQuotes
    by_cases hc : c = quote
    · subst hc
      rw [if_pos rfl, List.cons_append, List.cons_append, quotedRun, if_pos rfl, if_pos rfl, ih]
      rfl
    · rw [if_neg hc, List.cons_append, quotedRun_cons hc, ih]
      rfl

theorem length_quotedRun (h : quotedRun quote cs = some (content, rest)) :
    rest.length < cs.length := by
  induction cs using quotedRun.induct quote generalizing content with
  | case1 | case3 => simp_all [quotedRun]
  | case2 =>
    rw [quotedRun, if_pos rfl, Option.some.injEq] at h
    cases h
    exact Nat.zero_lt_one
  | case4 cs ih =>
    rw [quotedRun, if_pos rfl, if_pos rfl, Option.map_eq_some_iff] at h
    obtain ⟨run, hr, he⟩ := h
    cases he
    have hlt := ih hr
    simp only [List.length_cons]
    omega
  | case5 c cs hc =>
    rw [quotedRun, if_pos rfl, if_neg hc, Option.some.injEq] at h
    cases h
    simp
  | case6 c c' cs hc ih =>
    rw [quotedRun_cons hc, Option.map_eq_some_iff] at h
    obtain ⟨run, hr, he⟩ := h
    cases he
    have hlt := ih hr
    simp only [List.length_cons] at hlt ⊢
    omega

end

/-! ## Words -/

theorem isWordChar_quote (d : Dialect) : isWordChar d.quote = false := by cases d <;> decide

theorem isWordChar_of_isDigit {c : Char} (h : c.isDigit = true) : isWordChar c = true := by
  simp [isWordChar, Char.isAlphanum, h]

/-- The text consists of letters, digits and underscores. -/
def isWord (text : String) : Bool := text.toList.all isWordChar

theorem isWord_append {s t : String} : isWord (s ++ t) = (isWord s && isWord t) := by
  simp only [isWord, String.toList_append, List.all_append]

theorem isWordChar_of_mem {text : String} (h : isWord text = true) :
    ∀ c ∈ text.toList, isWordChar c = true := List.all_eq_true.1 h

theorem isDigit_of_mem_toString {n : Nat} {c : Char} (h : c ∈ (toString n).toList) :
    c.isDigit = true := (Text.isDigits_toString n).2.1 c h

theorem isWord_toString (n : Nat) : isWord (toString n) = true :=
  List.all_eq_true.2 fun _ h => isWordChar_of_isDigit (isDigit_of_mem_toString h)

/-- A word and a quoted run end where this follows. -/
def Ends (d : Dialect) (rest : List Char) : Prop :=
  ∀ c ∈ rest.head?, c ≠ d.quote ∧ isWordChar c = false

theorem Ends.nil {d : Dialect} : Ends d [] := fun _ h => absurd h (by simp)

theorem span_word {d : Dialect} {word rest : List Char} {p : Char → Bool} (hr : Ends d rest)
    (hp : ∀ c, p c = true → isWordChar c = true) (hw : ∀ c ∈ word, p c = true) :
    (word ++ rest).takeWhile p = word ∧ (word ++ rest).dropWhile p = rest := by
  have hhead : ∀ c ∈ rest.head?, p c = false := by
    intro c hc
    by_contra h
    rw [Bool.not_eq_false] at h
    have hword : isWordChar c = true := hp c h
    rw [(hr c hc).2] at hword
    cases hword
  rw [List.takeWhile_append_of_pos hw, List.dropWhile_append_of_pos hw]
  cases rest with
  | nil => simp
  | cons c rest => simp [hhead c rfl]

/-- An identifier is the name itself, if that is a word, or the name in quotes. -/
theorem identifier_cases (d : Dialect) (name : String) :
    (identifier d name = name ∧ isWord name = true) ∨ identifier d name = quoted d name := by
  unfold identifier
  by_cases h : needsQuoting name = true
  · exact .inr (if_pos h)
  · refine .inl ⟨if_neg h, ?_⟩
    rw [needsQuoting, Bool.or_eq_true, not_or, Bool.not_eq_true', Bool.not_eq_false] at h
    exact h.2

/-! ## Separators -/

/-- A character of words, or one of the signs between them. -/
def isPlain (c : Char) : Bool := isWordChar c || " .,()*=<>".toList.contains c

theorem isPlain_quote (d : Dialect) : isPlain d.quote = false := by cases d <;> decide

theorem isPlain_of_isWordChar {c : Char} (h : isWordChar c = true) : isPlain c = true := by
  rw [isPlain, h]
  rfl

/-- The text consists of plain characters. -/
def isPlainText (text : String) : Bool := text.toList.all isPlain

theorem isPlainText_append {s t : String} :
    isPlainText (s ++ t) = (isPlainText s && isPlainText t) := by
  simp only [isPlainText, String.toList_append, List.all_append]

theorem isPlainText_of_isWord {text : String} (h : isWord text = true) : isPlainText text = true :=
  List.all_eq_true.2 fun c hc => isPlain_of_isWordChar (isWordChar_of_mem h c hc)

/-- A plain text that does not start like a word. -/
def isSeparator (text : String) : Bool :=
  isPlainText text && text.toList.head?.any fun c => !isWordChar c

theorem Ends.append {d : Dialect} {sep : String} {rest : List Char} (h : isSeparator sep = true) :
    Ends d (sep.toList ++ rest) := by
  rw [isSeparator, isPlainText, Bool.and_eq_true, List.all_eq_true] at h
  obtain ⟨hplain, hword⟩ := h
  intro c hc
  cases hs : sep.toList with
  | nil => simp [hs] at hword
  | cons b bs =>
    simp only [hs, List.cons_append, List.head?_cons, Option.mem_some_iff, Option.any_some,
      Bool.not_eq_true'] at hc hword
    subst hc
    refine ⟨?_, hword⟩
    rintro rfl
    have hq := hplain d.quote (by simp [hs])
    rw [isPlain_quote] at hq
    cases hq

theorem Ends.text {d : Dialect} {sep text : String} {rest : List Char}
    (h : isSeparator sep = true) : Ends d ((sep ++ text).toList ++ rest) := by
  rw [String.toList_append, List.append_assoc]
  exact Ends.append h

/-! ## Aliases -/

/-- The alias of the root or of a join. -/
def IsAlias (a : String) : Prop := a = rootAlias ∨ ∃ n, a = joinAlias n

theorem IsAlias.isWord {a : String} (h : IsAlias a) : isWord a = true := by
  obtain rfl | ⟨n, rfl⟩ := h
  · decide
  · rw [joinAlias, isWord_append, isWord_toString]
    decide

theorem isAlias_of_mem {js : List Join} (h : Numbered js) {source : Source}
    (hs : source ∈ sources js) : IsAlias source.tableAlias :=
  (h.alias_eq hs).imp_right fun ⟨n, _, _, hn⟩ => ⟨n, hn⟩

end FilterQuery.Sql

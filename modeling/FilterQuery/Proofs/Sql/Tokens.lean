import FilterQuery.Proofs.Sql.Names
import FilterQuery.Proofs.Text.Case

/-!
# Identifiers as tokens

What makes a text one identifier, and which names are written as one.

* `IsRegular`, `IsReserved`, `contains_lowercase_iff`: names that may stand for themselves, and
  those that have a meaning of their own;
* `Denotes`: a text is one identifier, that of a name;
* `identifier_injective`: different names are written differently;
* **`identifier_denotes_iff`**: a name is written as its identifier, unless it starts with a digit.
-/

namespace FilterQuery.Sql

theorem isWordChar_iff {c : Char} :
    isWordChar c = true ↔ c.isAlpha = true ∨ c.isDigit = true ∨ c = '_' := by
  rw [isWordChar, Char.isAlphanum, Bool.or_eq_true, Bool.or_eq_true, beq_iff_eq, or_assoc]

theorem isAlpha_iff {c : Char} : c.isAlpha = true ↔ c.isUpper = true ∨ c.isLower = true :=
  Bool.or_eq_true_iff

theorem toNat_lt_of_isWordChar {c : Char} (h : isWordChar c = true) : c.toNat < 0x80 := by
  rcases isWordChar_iff.1 h with halpha | hdigit | rfl
  · rcases isAlpha_iff.1 halpha with hupper | hlower
    · exact Text.toNat_lt_of_isUpper hupper
    · exact Text.toNat_lt_of_isLower hlower
  · exact Nat.lt_of_le_of_lt
      (UInt32.le_iff_toNat_le.1 (of_decide_eq_true (Bool.and_eq_true_iff.1 hdigit).2)) (by decide)
  · decide

/-! ## Names that stand for themselves -/

/-- One of the first characters, and then ASCII letters, digits and underscores. -/
def Starts (first : Char → Prop) (name : String) : Prop :=
  ∃ c cs, name.toList = c :: cs ∧ first c ∧
    ∀ c' ∈ cs, c'.isAlpha = true ∨ c'.isDigit = true ∨ c' = '_'

/-- A regular identifier starts with an ASCII letter or an underscore. -/
def IsRegular (name : String) : Prop := Starts (fun c => c.isAlpha = true ∨ c = '_') name

/-- The name would be a regular identifier, but that it starts with a digit. -/
def StartsWithDigit (name : String) : Prop := Starts (fun c => c.isDigit = true) name

/-- The name is a reserved word, each of its letters in either case. -/
def IsReserved (name : String) : Prop :=
  ∃ word ∈ reservedWords,
    List.Forall₂ (fun c l => c = l ∨ c = l.toUpper) name.toList word.toList

variable {name : String}

theorem Starts.isWord {first : Char → Prop} (h : Starts first name)
    (hfirst : ∀ c, first c → isWordChar c = true) : isWord name = true := by
  obtain ⟨c, cs, hname, hc, hcs⟩ := h
  rw [Sql.isWord, hname, List.all_eq_true, List.forall_mem_cons]
  exact ⟨hfirst c hc, fun c' hc' => isWordChar_iff.2 (hcs c' hc')⟩

theorem StartsWithDigit.isWord (h : StartsWithDigit name) : isWord name = true :=
  Starts.isWord h fun _ hc => isWordChar_of_isDigit hc

/-- **A word is a regular identifier or starts with a digit**, and not both. -/
theorem isRegular_iff (hne : name ≠ "") (h : isWord name = true) :
    IsRegular name ↔ ¬ StartsWithDigit name := by
  constructor
  · rintro ⟨c, cs, hname, hc, -⟩ ⟨c', cs', hname', hdigit, -⟩
    rw [hname, List.cons.injEq] at hname'
    obtain ⟨rfl, -⟩ := hname'
    have hcheck : ∀ n < 0x80, ((Char.ofNat n).isAlpha = true ∨ Char.ofNat n = '_') →
        (Char.ofNat n).isDigit = false := by decide +kernel
    have hnot := Text.forall_ascii
      (p := fun c => (c.isAlpha = true ∨ c = '_') → c.isDigit = false) hcheck
      (toNat_lt_of_isWordChar (isWordChar_of_isDigit hdigit)) hc
    rw [hdigit] at hnot
    cases hnot
  · intro hdigit
    cases hname : name.toList with
    | nil => exact absurd (String.toList_eq_nil_iff.1 hname) hne
    | cons c cs =>
      rw [Sql.isWord, hname, List.all_eq_true, List.forall_mem_cons] at h
      have hcs : ∀ c' ∈ cs, c'.isAlpha = true ∨ c'.isDigit = true ∨ c' = '_' :=
        fun c' hc' => isWordChar_iff.1 (h.2 c' hc')
      rcases isWordChar_iff.1 h.1 with hc | hc | hc
      · exact ⟨c, cs, hname, .inl hc, hcs⟩
      · exact absurd ⟨c, cs, hname, hc, hcs⟩ hdigit
      · exact ⟨c, cs, hname, .inr hc, hcs⟩

theorem letters_of_reserved :
    ∀ word ∈ reservedWords, word.toList ≠ [] ∧ ∀ l ∈ word.toList, l.isLower = true := by
  have hcheck : (reservedWords.all fun word =>
      !word.toList.isEmpty && word.toList.all Char.isLower) = true := by decide +kernel
  intro word hword
  have hletters := List.all_eq_true.1 hcheck word hword
  rwa [Bool.and_eq_true, Bool.not_eq_true', List.isEmpty_eq_false_iff, List.all_eq_true]
    at hletters

/-- **The lower case of a word is reserved if the word is, in any letter case.** -/
theorem contains_lowercase_iff (h : isWord name = true) :
    reservedWords.contains (Text.lowercase name) = true ↔ IsReserved name := by
  have hlower : (Text.lowercase name).toList = name.toList.map Char.toLower :=
    Text.lowercase_of_ascii fun c hc => toNat_lt_of_isWordChar (isWordChar_of_mem h c hc)
  have hcase : ∀ word ∈ reservedWords, Text.lowercase name = word ↔
      List.Forall₂ (fun c l => c = l ∨ c = l.toUpper) name.toList word.toList := by
    intro word hword
    have hsmall : ∀ l ∈ word.toList, l.isUpper = false := fun l hl =>
      Text.isUpper_eq_false_of_isLower ((letters_of_reserved word hword).2 l hl)
    rw [Text.forall₂_case_iff hsmall, ← hlower, String.toList_inj]
  rw [List.contains_iff_mem, IsReserved]
  constructor
  · intro hmem
    exact ⟨_, hmem, (hcase _ hmem).1 rfl⟩
  · rintro ⟨word, hword, hsame⟩
    rwa [(hcase word hword).2 hsame]

theorem StartsWithDigit.not_isReserved (h : StartsWithDigit name) : ¬ IsReserved name := by
  rintro ⟨word, hword, hsame⟩
  obtain ⟨c, cs, hname, hc, -⟩ := h
  have hletters := (letters_of_reserved word hword).2
  rw [hname] at hsame
  cases hs : word.toList with
  | nil => exact (letters_of_reserved word hword).1 hs
  | cons l ls =>
    rw [hs] at hsame hletters
    have hl := hletters l List.mem_cons_self
    have hlower := (Text.toLower_eq_iff (Text.isUpper_eq_false_of_isLower hl)).2
      (List.forall₂_cons.1 hsame).1
    have hcheck : ∀ n < 0x80, (Char.ofNat n).isDigit = true →
        (Char.ofNat n).toLower.isLower = false := by decide +kernel
    have hnot := Text.forall_ascii
      (p := fun c => c.isDigit = true → c.toLower.isLower = false) hcheck
      (toNat_lt_of_isWordChar (isWordChar_of_isDigit hc)) hc
    rw [hlower, hl] at hnot
    cases hnot

/-! ## One token -/

/-- The text is one identifier, that of the name: either in quotes, with nothing after them and two
quotes inside for one, or the name itself, if that is a regular identifier and not reserved. -/
inductive Denotes (d : Dialect) (text name : String) : Prop
  | delimited (body : List Char) (opens : text.toList = d.quote :: body)
      (content : quotedRun d.quote body = some (name.toList, []))
  | regular (same : text = name) (regular : IsRegular name) (free : ¬ IsReserved name)

variable {d : Dialect}

theorem toList_quoted :
    (quoted d name).toList = d.quote :: (doubleQuotes d.quote name.toList ++ [d.quote]) :=
  String.toList_ofList

theorem quotedRun_quoted : quotedRun d.quote (doubleQuotes d.quote name.toList ++ [d.quote]) =
    some (name.toList, []) := quotedRun_doubleQuotes (by simp)

theorem not_mem_of_isWord (h : isWord name = true) : d.quote ∉ name.toList := by
  intro hmem
  have hquote := isWordChar_of_mem h _ hmem
  rw [isWordChar_quote] at hquote
  cases hquote

/-- **Different names are written differently.** -/
theorem identifier_injective (d : Dialect) : Function.Injective (identifier d) := by
  have hapart : ∀ name other : String, isWord name = true → name ≠ quoted d other := by
    rintro _ other h rfl
    exact not_mem_of_isWord h (by rw [toList_quoted]; exact List.mem_cons_self)
  intro name other h
  rcases identifier_cases d name with ⟨hname, hw⟩ | hname <;>
    rcases identifier_cases d other with ⟨hother, hw'⟩ | hother <;> rw [hname, hother] at h
  · exact h
  · exact absurd h (hapart name other hw)
  · exact absurd h.symm (hapart other name hw')
  · have hbody := congrArg String.toList h
    rw [toList_quoted, toList_quoted, List.cons.injEq] at hbody
    have hrun : quotedRun d.quote (doubleQuotes d.quote name.toList ++ [d.quote]) =
        some (name.toList, []) := quotedRun_quoted
    rw [hbody.2, quotedRun_quoted, Option.some.injEq, Prod.mk.injEq] at hrun
    exact String.toList_inj.1 hrun.1.symm

theorem needsQuoting_eq_false_iff :
    needsQuoting name = false ↔ isWord name = true ∧ ¬ IsReserved name := by
  have hor : needsQuoting name = false ↔
      isWord name = true ∧ ¬ reservedWords.contains (Text.lowercase name) = true := by
    rw [needsQuoting, Bool.or_eq_false_iff, Bool.not_eq_false', and_comm, Bool.not_eq_true]
    rfl
  rw [hor]
  exact and_congr_right fun h => not_congr (contains_lowercase_iff h)

/-- **A name is written as its identifier, unless it starts with a digit.** A name that would be
regular but for its first character stands as it is, and is no identifier then. In any case no two
names are written as the same text. -/
theorem identifier_denotes_iff (d : Dialect) {name : String} (h : name ≠ "") :
    (Denotes d (identifier d name) name ↔ ¬ StartsWithDigit name) ∧
      (StartsWithDigit name → identifier d name = name) ∧
      ∀ other, identifier d other = identifier d name → other = name := by
  have hdigit : StartsWithDigit name → identifier d name = name := fun hdigit => if_neg (by
    rw [needsQuoting_eq_false_iff.2 ⟨hdigit.isWord, hdigit.not_isReserved⟩]
    decide)
  refine ⟨⟨?_, ?_⟩, hdigit, fun other heq => identifier_injective d heq⟩
  · rintro hdenotes hstarts
    rw [hdigit hstarts] at hdenotes
    cases hdenotes with
    | delimited body opens =>
      exact not_mem_of_isWord hstarts.isWord (by rw [opens]; exact List.mem_cons_self)
    | regular _ regular => exact (isRegular_iff h hstarts.isWord).1 regular hstarts
  · intro hstarts
    cases hquoting : needsQuoting name with
    | true =>
      rw [identifier, if_pos hquoting]
      exact .delimited _ toList_quoted quotedRun_quoted
    | false =>
      obtain ⟨hword, hfree⟩ := needsQuoting_eq_false_iff.1 hquoting
      rw [identifier, if_neg (by rw [hquoting]; decide)]
      exact .regular rfl ((isRegular_iff h hword).2 hstarts) hfree

/-- A reserved word in mixed case is quoted. A name that starts with a digit is not. -/
theorem identifier_denotes_iff_digit :
    "Limit" ≠ "" ∧ Denotes .postgreSQL "\"Limit\"" "Limit" ∧
      "2fa" ≠ "" ∧ StartsWithDigit "2fa" ∧ identifier .postgreSQL "2fa" = "2fa" ∧
      ¬ Denotes .postgreSQL (identifier .postgreSQL "2fa") "2fa" := by
  have hlimit : ¬ StartsWithDigit "Limit" := by
    rintro ⟨c, cs, hname, hc, -⟩
    obtain ⟨rfl, -⟩ := List.cons.inj (show ['L', 'i', 'm', 'i', 't'] = c :: cs from hname)
    exact absurd hc (by decide)
  have hdigit : StartsWithDigit "2fa" := ⟨'2', ['f', 'a'], rfl, by decide, by simp⟩
  have hword : "Limit" ≠ "" := by decide +kernel
  have hname : "2fa" ≠ "" := by decide +kernel
  obtain ⟨hquoted, -, -⟩ := identifier_denotes_iff .postgreSQL hword
  obtain ⟨hbare, hsame, -⟩ := identifier_denotes_iff .postgreSQL hname
  have htext : identifier .postgreSQL "Limit" = "\"Limit\"" := by decide +kernel
  exact ⟨hword, htext ▸ hquoted.2 hlimit, hname, hdigit, hsame hdigit,
    fun hdenotes => hbare.1 hdenotes hdigit⟩

end FilterQuery.Sql

import FilterQuery.Text.Blank
import FilterQuery.Text.Number
import Mathlib.Data.List.Basic
import Mathlib.Data.List.Infix

/-!
# Numbers between blanks

How a 64-bit number is written, and what is wrong with a text that is none.

* `IsTrimmed`, **`isTrimmed_iff`**: a text without the blanks at its two ends;
* `IsDigits`, `IsNumeral`: a run of digits, after a plus sign or none, and what it is worth;
* `readDigits_eq_ok_iff`, `readDigits_eq_tooLarge_iff`: digits read from the left; `Exceeds`: those
  that are worth too much;
* `IsFault`: what is wrong with a text, found from the left;
* **`readWord_eq_ok_iff`**, **`readWord_eq_error_iff`**: numerals below 2⁶⁴ are read as what they
  are worth, and all other texts have a fault.
-/

namespace FilterQuery.Text

/-! ## Blanks at the ends -/

section

variable {s : String} {before core after : List Char}

theorem isBlank_of_isDigit {c : Char} (h : c.isDigit = true) : isBlank c = false := by
  simp only [Char.isDigit, Bool.and_eq_true, decide_eq_true_eq, ge_iff_le,
    UInt32.le_iff_toNat_le] at h
  have hval : 48 ≤ c.toNat ∧ c.toNat ≤ 57 := h
  simp only [isBlank, Bool.or_eq_false_iff, Bool.and_eq_false_iff, decide_eq_false_iff_not,
    beq_eq_false_iff_ne]
  omega

theorem dropBlanks_cons {c : Char} {rest : List Char} (h : isBlank c = false) :
    dropBlanks (c :: rest) = c :: rest := by
  rw [dropBlanks, List.dropWhile_cons_of_neg (by simp [h])]

theorem dropBlanks_append (hbefore : ∀ c ∈ before, isBlank c = true)
    (hcore : ∀ c ∈ core.head?, isBlank c = false) : dropBlanks (before ++ core) = core := by
  rw [dropBlanks, List.dropWhile_append_of_pos hbefore]
  cases core with
  | nil => rfl
  | cons c cs => exact dropBlanks_cons (hcore c rfl)

theorem exists_dropBlanks (cs : List Char) : ∃ before, cs = before ++ dropBlanks cs ∧
    (∀ c ∈ before, isBlank c = true) ∧ ∀ c ∈ (dropBlanks cs).head?, isBlank c = false := by
  refine ⟨cs.takeWhile isBlank, List.takeWhile_append_dropWhile.symm,
    List.all_eq_true.1 List.all_takeWhile, ?_⟩
  intro c hc
  have hhead := List.head?_dropWhile_not isBlank cs
  rw [Option.mem_def, dropBlanks] at hc
  rwa [hc] at hhead

/-- What the text is between blanks: there are no more of them at either end. -/
structure IsTrimmed (s : String) (core : List Char) : Prop where
  between : ∃ before after, s.toList = before ++ core ++ after ∧
    (∀ c ∈ before, isBlank c = true) ∧ ∀ c ∈ after, isBlank c = true
  head : ∀ c ∈ core.head?, isBlank c = false
  last : ∀ c ∈ core.getLast?, isBlank c = false

theorem isTrimmed_trim (s : String) : IsTrimmed s (trim s).toList := by
  obtain ⟨before, hs, hbefore, hhead⟩ := exists_dropBlanks s.toList
  obtain ⟨after, hrest, hafter, hlast⟩ := exists_dropBlanks (dropBlanks s.toList).reverse
  have hsplit : dropBlanks s.toList = (trim s).toList ++ after.reverse := by
    rw [trim, String.toList_ofList, ← List.reverse_append, ← hrest, List.reverse_reverse]
  refine ⟨⟨before, after.reverse, ?_, hbefore, ?_⟩, ?_, ?_⟩
  · rw [List.append_assoc, ← hsplit, ← hs]
  · simpa using hafter
  · intro c hc
    refine hhead c ?_
    rw [hsplit, List.head?_append, Option.mem_def.1 hc]
    rfl
  · rwa [trim, String.toList_ofList, List.getLast?_reverse]

theorem IsTrimmed.trim_eq (h : IsTrimmed s core) : (trim s).toList = core := by
  obtain ⟨⟨before, after, hs, hbefore, hafter⟩, hhead, hlast⟩ := h
  have hback : ∀ c ∈ after.reverse, isBlank c = true := by simpa using hafter
  have hend : ∀ c ∈ core.reverse.head?, isBlank c = false := by rwa [List.head?_reverse]
  rw [trim, String.toList_ofList, hs, List.append_assoc]
  cases core with
  | nil =>
    have hall : dropBlanks (before ++ ([] ++ after)) = [] := by
      rw [List.nil_append, ← List.append_nil (before ++ after)]
      exact dropBlanks_append (by simpa [or_imp, forall_and] using ⟨hbefore, hafter⟩) (by simp)
    rw [hall]
    rfl
  | cons c cs =>
    have hfront : dropBlanks (before ++ (c :: cs ++ after)) = c :: cs ++ after :=
      dropBlanks_append hbefore hhead
    rw [hfront, List.reverse_append, dropBlanks_append hback hend, List.reverse_reverse]

/-- **Trimming a text leaves what it is between blanks.** -/
theorem isTrimmed_iff : IsTrimmed s core ↔ (trim s).toList = core := by
  constructor
  · exact IsTrimmed.trim_eq
  · rintro rfl
    exact isTrimmed_trim s

theorem isTrimmed_self (h : ∀ c ∈ s.toList, isBlank c = false) : IsTrimmed s s.toList :=
  ⟨⟨[], [], by simp⟩, fun c hc => h c (List.mem_of_mem_head? hc),
    fun c hc => h c (List.mem_of_getLast? hc)⟩

end

/-! ## Digits -/

section

variable {k n : Nat} {cs ds : List Char}

theorem le_ofDigitChars : k ≤ Nat.ofDigitChars 10 cs k := by
  rw [Nat.ofDigitChars_eq_ofDigitChars_zero]
  exact Nat.le_add_right_of_le (Nat.le_mul_of_pos_left k (Nat.pow_pos (by decide)))

/-- **Digits are read as what they are worth**, if that is below 2⁶⁴. -/
theorem readDigits_eq_ok_iff (hk : k < UInt64.size) : readDigits k cs = .ok n ↔
    (∀ c ∈ cs, c.isDigit = true) ∧ Nat.ofDigitChars 10 cs k = n ∧ n < UInt64.size := by
  -- The number read so far never decreases, so one that is too large stays so.
  induction cs generalizing k with
  | nil =>
    constructor
    · rintro ⟨⟩
      exact ⟨by simp, rfl, hk⟩
    · rintro ⟨-, rfl, -⟩
      rfl
  | cons c cs ih =>
    rw [readDigits, List.forall_mem_cons, Nat.ofDigitChars_cons]
    by_cases hc : c.isDigit = true
    · rw [if_pos hc]
      dsimp only
      split
      · rw [ih ‹_›]
        simp [hc]
      · have hle : 10 * k + (c.toNat - '0'.toNat) ≤
            Nat.ofDigitChars 10 cs (10 * k + (c.toNat - '0'.toNat)) := le_ofDigitChars
        refine iff_of_false (fun h => by cases h) ?_
        rintro ⟨-, rfl, hlt⟩
        omega
    · rw [if_neg hc]
      simp [hc]

/-- Digits after the number `k` are worth too much, up to some place among them. -/
def Exceeds (k : Nat) (cs : List Char) : Prop :=
  ∃ ds, ds <+: cs ∧ (∀ c ∈ ds, c.isDigit = true) ∧ UInt64.size ≤ Nat.ofDigitChars 10 ds k

theorem exceeds_of_le (h : UInt64.size ≤ k) : Exceeds k cs := ⟨[], List.nil_prefix, by simp, h⟩

theorem not_exceeds_nil (hk : k < UInt64.size) : ¬ Exceeds k [] := by
  rintro ⟨ds, hds, -, hle⟩
  rw [List.prefix_nil.1 hds] at hle
  exact absurd hk (Nat.not_lt.2 hle)

theorem exceeds_cons_iff (hk : k < UInt64.size) {c : Char} : Exceeds k (c :: cs) ↔
    c.isDigit = true ∧ Exceeds (10 * k + (c.toNat - '0'.toNat)) cs := by
  constructor
  · rintro ⟨ds, hds, hdigits, hle⟩
    rcases List.prefix_cons_iff.1 hds with rfl | ⟨rest, rfl, hrest⟩
    · exact absurd hk (Nat.not_lt.2 hle)
    · obtain ⟨hc, hdigits⟩ := List.forall_mem_cons.1 hdigits
      exact ⟨hc, rest, hrest, hdigits, Nat.ofDigitChars_cons ▸ hle⟩
  · rintro ⟨hc, ds, hds, hdigits, hle⟩
    exact ⟨c :: ds, List.cons_prefix_cons.2 ⟨rfl, hds⟩, List.forall_mem_cons.2 ⟨hc, hdigits⟩,
      Nat.ofDigitChars_cons ▸ hle⟩

/-- **Digits are too large** if those up to some place are, whatever follows them. -/
theorem readDigits_eq_tooLarge_iff (hk : k < UInt64.size) :
    readDigits k cs = .error .tooLarge ↔ Exceeds k cs := by
  induction cs generalizing k with
  | nil => exact iff_of_false (fun h => by cases h) (not_exceeds_nil hk)
  | cons c cs ih =>
    rw [exceeds_cons_iff hk, readDigits]
    by_cases hc : c.isDigit = true
    · rw [if_pos hc]
      dsimp only
      split
      · rw [ih ‹_›]
        simp [hc]
      · exact iff_of_true rfl ⟨hc, exceeds_of_le (Nat.le_of_not_lt ‹_›)⟩
    · rw [if_neg hc]
      simp [hc]

theorem readDigits_ne_empty : readDigits k cs ≠ .error .empty := by
  induction cs generalizing k with
  | nil => simp [readDigits]
  | cons c cs ih =>
    rw [readDigits]
    dsimp only
    split
    · split
      · exact ih
      · simp
    · simp

end

/-! ## Numerals -/

/-- At least one digit, together worth `n`. -/
def IsDigits (ds : List Char) (n : Nat) : Prop :=
  ds ≠ [] ∧ (∀ c ∈ ds, c.isDigit = true) ∧ digitsValue ds = n

/-- Digits, with a plus sign before them or none. -/
def IsNumeral (cs : List Char) (n : Nat) : Prop :=
  IsDigits cs n ∨ ∃ ds, cs = '+' :: ds ∧ IsDigits ds n

/-- What is wrong with a text that is no numeral below 2⁶⁴: there is nothing at all, or the start of
it is worth too much already, or it is no numeral. -/
def IsFault (cs : List Char) : NumberFault → Prop
  | .empty => cs = []
  | .tooLarge => ∃ start n, start <+: cs ∧ IsNumeral start n ∧ UInt64.size ≤ n
  | .invalidDigit => cs ≠ [] ∧ (∀ n, ¬ IsNumeral cs n) ∧
      ∀ start n, start <+: cs → IsNumeral start n → n < UInt64.size

/-- What follows a plus sign at the start, if there is one. -/
def afterSign : List Char → List Char
  | '+' :: cs => cs
  | cs => cs

section

variable {n : Nat} {c : Char} {cs : List Char} {s : String}

theorem afterSign_cons (h : c ≠ '+') : afterSign (c :: cs) = c :: cs := by
  unfold afterSign
  split
  · exact absurd (List.cons.inj ‹_›).1 h
  · rfl

theorem afterSign_prefix {start : List Char} (h : start <+: cs) :
    afterSign start <+: afterSign cs := by
  obtain ⟨rest, rfl⟩ := h
  cases start with
  | nil => exact List.nil_prefix
  | cons c start =>
    by_cases hc : c = '+'
    · subst hc
      exact ⟨rest, rfl⟩
    · rw [List.cons_append, afterSign_cons hc, afterSign_cons hc]
      exact ⟨rest, rfl⟩

/-- The start of what follows the sign is what follows the sign of some start. -/
theorem exists_afterSign_eq {ds : List Char} (h : ds <+: afterSign cs) :
    ∃ start, start <+: cs ∧ afterSign start = ds := by
  rcases cs with _ | ⟨c, cs⟩
  · exact ⟨[], List.nil_prefix, (List.prefix_nil.1 h).symm⟩
  · by_cases hc : c = '+'
    · subst hc
      exact ⟨'+' :: ds, List.cons_prefix_cons.2 ⟨rfl, h⟩, rfl⟩
    · rw [afterSign_cons hc] at h
      refine ⟨ds, h, ?_⟩
      rcases List.prefix_cons_iff.1 h with rfl | ⟨rest, rfl, -⟩
      · rfl
      · exact afterSign_cons hc

theorem isNumeral_iff : IsNumeral cs n ↔ IsDigits (afterSign cs) n := by
  have hplus {ds : List Char} : ¬ IsDigits ('+' :: ds) n := fun h =>
    absurd (h.2.1 '+' List.mem_cons_self) (by decide)
  rcases cs with _ | ⟨c, cs⟩
  · simp [IsNumeral, afterSign]
  · by_cases hc : c = '+'
    · subst hc
      simp [IsNumeral, afterSign, hplus]
    · simp [IsNumeral, afterSign_cons hc, hc]

theorem readWord_eq (s : String) : readWord s =
    if s.toList = [] then .error .empty
    else if afterSign s.toList = [] then .error .invalidDigit
    else readDigits 0 (afterSign s.toList) := by
  unfold readWord
  generalize s.toList = cs
  rcases cs with _ | ⟨c, cs⟩
  · rfl
  · by_cases hc : c = '+'
    · subst hc
      cases cs <;> rfl
    · rw [afterSign_cons hc, if_neg (List.cons_ne_nil c cs), if_neg (List.cons_ne_nil c cs)]
      split <;> simp_all

theorem readWord_eq_empty_iff : readWord s = .error .empty ↔ s.toList = [] := by
  rw [readWord_eq]
  split
  · exact iff_of_true rfl ‹_›
  · refine iff_of_false ?_ ‹_›
    split
    · simp
    · exact readDigits_ne_empty

/-- **A text is read as a number if it is a numeral below 2⁶⁴.** -/
theorem readWord_eq_ok_iff : readWord s = .ok n ↔ IsNumeral s.toList n ∧ n < UInt64.size := by
  rw [readWord_eq, isNumeral_iff, IsDigits]
  split
  · simp [*, afterSign]
  · split
    · simp [*]
    · rw [readDigits_eq_ok_iff (by decide)]
      simp only [ne_eq, ‹¬ afterSign s.toList = []›, not_false_eq_true, true_and, and_assoc]
      rfl

theorem exceeds_afterSign_iff : Exceeds 0 (afterSign cs) ↔
    ∃ start n, start <+: cs ∧ IsNumeral start n ∧ UInt64.size ≤ n := by
  constructor
  · rintro ⟨ds, hds, hdigits, hle⟩
    obtain ⟨start, hstart, rfl⟩ := exists_afterSign_eq hds
    refine ⟨start, _, hstart, isNumeral_iff.2 ⟨?_, hdigits, rfl⟩, hle⟩
    intro hnil
    rw [hnil] at hle
    exact absurd hle (by decide)
  · rintro ⟨start, n, hstart, hnumeral, hle⟩
    obtain ⟨-, hdigits, rfl⟩ := isNumeral_iff.1 hnumeral
    exact ⟨afterSign start, afterSign_prefix hstart, hdigits, hle⟩

theorem readWord_eq_tooLarge_iff : readWord s = .error .tooLarge ↔
    ∃ start n, start <+: s.toList ∧ IsNumeral start n ∧ UInt64.size ≤ n := by
  rw [readWord_eq, ← exceeds_afterSign_iff]
  split
  · rw [‹s.toList = []›]
    exact iff_of_false (by simp) (not_exceeds_nil (by decide))
  · split
    · rw [‹afterSign s.toList = []›]
      exact iff_of_false (by simp) (not_exceeds_nil (by decide))
    · exact readDigits_eq_tooLarge_iff (by decide)

/-- **A text that is no such numeral has a fault**, the first from the left. -/
theorem readWord_eq_error_iff {fault : NumberFault} :
    readWord s = .error fault ↔ IsFault s.toList fault := by
  cases fault with
  | empty => exact readWord_eq_empty_iff
  | tooLarge => exact readWord_eq_tooLarge_iff
  | invalidDigit =>
    have hnumber : (∀ n, readWord s ≠ .ok n) ∧ readWord s ≠ .error .tooLarge ↔
        (∀ n, ¬ IsNumeral s.toList n) ∧
          ∀ start n, start <+: s.toList → IsNumeral start n → n < UInt64.size := by
      simp only [ne_eq, readWord_eq_ok_iff, readWord_eq_tooLarge_iff, not_exists, not_and,
        Nat.not_le, Nat.not_lt]
      constructor
      · rintro ⟨hlarge, hstart⟩
        refine ⟨fun n hn => ?_, hstart⟩
        exact absurd (hstart _ n List.prefix_rfl hn) (Nat.not_lt.2 (hlarge n hn))
      · rintro ⟨hno, hstart⟩
        exact ⟨fun n hn => absurd hn (hno n), hstart⟩
    rw [IsFault, ← hnumber, ne_eq, ← readWord_eq_empty_iff]
    rcases readWord s with (_ | _ | _) | n <;> simp

/-! ## Numbers in writing -/

theorem isDigits_toString (n : Nat) : IsDigits (toString n).toList n := by
  rw [Nat.toString_eq_ofList_toDigits, String.toList_ofList]
  refine ⟨Nat.toDigits_ne_nil, ?_, digitsValue_toDigits n⟩
  exact fun c hc => Nat.isDigit_of_mem_toDigits (by decide) (by decide) hc

theorem isTrimmed_toString (n : Nat) : IsTrimmed (toString n) (toString n).toList :=
  isTrimmed_self fun c hc => isBlank_of_isDigit ((isDigits_toString n).2.1 c hc)

end

end FilterQuery.Text

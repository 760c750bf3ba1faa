import FilterQuery.Text.Lowercase
import Mathlib.Data.List.Forall2

/-!
# Letters in either case

Texts in lower case, and texts that are one word but for the case of its letters.

* `lowercase_of_ascii`: the lower case of an ASCII text is that of its letters;
* `forall_ascii`: a check on all ASCII characters;
* `toLower_eq_iff`, `forall₂_case_iff`: what becomes a given letter or word in lower case;
* `SpelledAs`, **`asciiLowercase_eq_iff`**: a word with each of its letters in either case.
-/

namespace FilterQuery.Text

theorem lowercaseFrom_of_ascii {before cs : List Char} (h : ∀ c ∈ cs, c.toNat < 0x80) :
    lowercaseFrom before cs = cs.map Char.toLower := by
  induction cs generalizing before with
  | nil => rfl
  | cons c cs ih =>
    obtain ⟨hc, hcs⟩ := List.forall_mem_cons.1 h
    have hsigma : c ≠ 'Σ' := by
      rintro rfl
      exact absurd hc (by decide)
    rw [lowercaseFrom, if_neg hsigma, ih hcs, lowerChar, if_pos hc]
    rfl

/-- **An ASCII text has the lower case of its letters.** -/
theorem lowercase_of_ascii {s : String} (h : ∀ c ∈ s.toList, c.toNat < 0x80) :
    (lowercase s).toList = s.toList.map Char.toLower := by
  rw [lowercase, String.toList_ofList, lowercaseFrom_of_ascii h]

theorem forall_ascii {p : Char → Prop} (h : ∀ n < 0x80, p (Char.ofNat n)) {c : Char}
    (hc : c.toNat < 0x80) : p c := by
  have hp := h c.toNat hc
  rwa [Char.ofNat_toNat] at hp

section

variable {c l : Char}

theorem toNat_lt_of_isUpper (h : c.isUpper = true) : c.toNat < 0x80 :=
  Nat.lt_of_le_of_lt (UInt32.le_iff_toNat_le.1 (of_decide_eq_true h).2) (by decide)

theorem toNat_lt_of_isLower (h : c.isLower = true) : c.toNat < 0x80 :=
  Nat.lt_of_le_of_lt
    (UInt32.le_iff_toNat_le.1 (of_decide_eq_true (Bool.and_eq_true_iff.1 h).2)) (by decide)

theorem isUpper_eq_false_of_isLower (h : c.isLower = true) : c.isUpper = false :=
  forall_ascii (p := fun c => c.isLower = true → c.isUpper = false) (by decide +kernel)
    (toNat_lt_of_isLower h) h

theorem toLower_of_not_isUpper (h : c.isUpper = false) : c.toLower = c :=
  dif_neg (of_decide_eq_false h)

theorem toUpper_of_not_isLower (h : c.isLower = false) : c.toUpper = c := by
  refine dif_neg fun hbetween => ?_
  have hlower : c.isLower = true :=
    Bool.and_eq_true_iff.2 ⟨decide_eq_true hbetween.1, decide_eq_true hbetween.2⟩
  rw [h] at hlower
  cases hlower

theorem toLower_eq_iff (hl : l.isUpper = false) : c.toLower = l ↔ c = l ∨ c = l.toUpper := by
  constructor
  · rintro rfl
    cases hc : c.isUpper with
    | true =>
      exact .inr (forall_ascii (p := fun c => c.isUpper = true → c = c.toLower.toUpper)
        (by decide +kernel) (toNat_lt_of_isUpper hc) hc)
    | false => exact .inl (toLower_of_not_isUpper hc).symm
  · rintro (rfl | rfl)
    · exact toLower_of_not_isUpper hl
    · cases hlower : l.isLower with
      | true =>
        exact forall_ascii (p := fun l => l.isLower = true → l.toUpper.toLower = l)
          (by decide +kernel) (toNat_lt_of_isLower hlower) hlower
      | false =>
        rw [toUpper_of_not_isLower hlower, toLower_of_not_isUpper hl]

end

theorem forall₂_case_iff {cs ls : List Char} (hl : ∀ l ∈ ls, l.isUpper = false) :
    List.Forall₂ (fun c l => c = l ∨ c = l.toUpper) cs ls ↔ cs.map Char.toLower = ls := by
  induction cs generalizing ls with
  | nil => simp [eq_comm]
  | cons c cs ih =>
    cases ls with
    | nil => simp
    | cons l ls =>
      obtain ⟨hl, hls⟩ := List.forall_mem_cons.1 hl
      rw [List.forall₂_cons, List.map_cons, List.cons.injEq, ih hls, toLower_eq_iff hl]

/-- The text is the word, each of its letters in either case. -/
def SpelledAs (s word : String) : Prop :=
  List.Forall₂ (fun c l => c = l ∨ c = l.toUpper) s.toList word.toList

theorem SpelledAs.refl (s : String) : SpelledAs s s := List.forall₂_same.2 fun _ _ => .inl rfl

/-- **A text becomes a word without capitals if it is spelled as that word.** -/
theorem asciiLowercase_eq_iff {s word : String} (h : ∀ l ∈ word.toList, l.isUpper = false) :
    asciiLowercase s = word ↔ SpelledAs s word := by
  rw [SpelledAs, forall₂_case_iff h, ← String.toList_inj, asciiLowercase, String.toList_map]

end FilterQuery.Text

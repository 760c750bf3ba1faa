import FilterQuery.Calendar.Reader
import FilterQuery.Calendar.Written
import FilterQuery.Proofs.Calendar.Civil
import FilterQuery.Proofs.Text.Numerals

/-!
# Reading what was written

Dates and instants are read back from their written forms.

* `Text.digitsValue_padded`, `Text.length_padded`: numbers with zeros in front;
* `Reader.bind_eq`, `Reader.readNumber_append`, `Reader.readNumber_padded`: readers on the front of
  a text;
* `Reader.readYear_yearText`, `Reader.readCivil_text`: years and dates with anything after them;
* **`Date.read?_text`**: each date is read back;
* `Reader.readFraction_fractionText`, `Instant.ofLocal?_written`: fractions and leap seconds;
* **`Instant.read?_text`**, **`Date.read?_instantText`**: so is each instant of a year that has four
  digits, and none of them is read as a date.
-/

namespace FilterQuery

/-! ## Numbers with zeros in front -/

namespace Text

variable {width n : Nat}

theorem toList_padded : (padded width n).toList =
    List.replicate (width - (Nat.toDigits 10 n).length) '0' ++ Nat.toDigits 10 n :=
  String.toList_ofList

theorem isDigit_of_mem_padded {c : Char} (h : c ∈ (padded width n).toList) : c.isDigit = true := by
  rw [toList_padded, List.mem_append] at h
  rcases h with h | h
  · rw [List.eq_of_mem_replicate h]
    decide
  · exact Nat.isDigit_of_mem_toDigits (by decide) (by decide) h

/-- **Zeros in front do not change a number.** -/
theorem digitsValue_padded : digitsValue (padded width n).toList = n := by
  rw [toList_padded, digitsValue, Nat.ofDigitChars_append, Nat.ofDigitChars_replicate_zero,
    Nat.mul_zero, Nat.ofDigitChars_ten_toDigits]

theorem le_length_padded : width ≤ (padded width n).toList.length := by
  rw [toList_padded, List.length_append, List.length_replicate]
  omega

theorem length_padded (hwidth : 0 < width) (h : n < Nat.pow 10 width) :
    (padded width n).toList.length = width := by
  have hle : (Nat.toDigits 10 n).length ≤ width :=
    (Nat.length_toDigits_le_iff (by decide) hwidth).2 h
  rw [toList_padded, List.length_append, List.length_replicate]
  omega

theorem exists_padded (hwidth : 0 < width) :
    ∃ c cs, (padded width n).toList = c :: cs ∧ c.isDigit = true := by
  cases h : (padded width n).toList with
  | nil =>
    have hlength : width ≤ (padded width n).toList.length := le_length_padded
    rw [h, List.length_nil] at hlength
    omega
  | cons c cs => exact ⟨c, cs, rfl, isDigit_of_mem_padded (by rw [h]; exact List.mem_cons_self)⟩

end Text

open Text

/-! ## Readers on the front of a text -/

namespace Reader

section

variable {α β : Type} {r : Reader α} {f : α → Reader β} {a : α} {cs rest : List Char}

theorem bind_eq (h : r cs = some (a, rest)) : (r >>= f) cs = f a rest := by
  change Option.bind (r cs) _ = _
  rw [h]
  rfl

theorem readChar_cons (c : Char) (rest : List Char) : readChar c (c :: rest) = some ((), rest) :=
  if_pos rfl

theorem readSeparator_cons (c : Char) (rest : List Char) :
    readSeparator false c (c :: rest) = some ((), rest) := readChar_cons c rest

end

/-- The text does not go on with a digit. -/
def NoDigit (rest : List Char) : Prop := ∀ c ∈ rest.head?, c.isDigit = false

theorem noDigit_cons {c : Char} {rest : List Char} (h : c.isDigit = false) :
    NoDigit (c :: rest) := by
  rintro _ ⟨⟩
  exact h

variable {ds rest : List Char} {least most width n : Nat}

theorem takeWhile_take (hd : ∀ c ∈ ds, c.isDigit = true) (hmost : ds.length ≤ most)
    (hrest : ds.length = most ∨ NoDigit rest) :
    ((ds ++ rest).take most).takeWhile Char.isDigit = ds := by
  rw [List.take_append, List.take_of_length_le hmost, List.takeWhile_append_of_pos hd]
  suffices h : (rest.take (most - ds.length)).takeWhile Char.isDigit = [] by
    rw [h, List.append_nil]
  rcases hrest with hfull | hrest
  · rw [hfull, Nat.sub_self]
    rfl
  · cases rest with
    | nil => rw [List.take_nil]; rfl
    | cons c rest =>
      cases most - ds.length with
      | zero => rfl
      | succ k => rw [List.take_succ_cons, List.takeWhile_cons_of_neg (by simp [hrest c rfl])]

/-- **A run of digits is read as its number**, if it is of the right length and ends there. -/
theorem readNumber_append (hd : ∀ c ∈ ds, c.isDigit = true) (hleast : least ≤ ds.length)
    (hmost : ds.length ≤ most) (hrest : ds.length = most ∨ NoDigit rest) :
    readNumber least most (ds ++ rest) = some (digitsValue ds, rest) := by
  unfold readNumber
  dsimp only
  rw [takeWhile_take hd hmost hrest, if_neg (Nat.not_lt.2 hleast), List.drop_left]

theorem readNumber_padded (hleast : least ≤ width) (hwidth : 0 < width) (h : n < Nat.pow 10 width) :
    readNumber least width ((padded width n).toList ++ rest) = some (n, rest) := by
  have hlength : (padded width n).toList.length = width := length_padded hwidth h
  rw [readNumber_append (fun _ => isDigit_of_mem_padded) (hlength.symm ▸ hleast) hlength.le
    (.inl hlength), digitsValue_padded]

theorem readTwo_padded (h : n < 100) :
    readNumber 2 2 ((padded 2 n).toList ++ rest) = some (n, rest) :=
  readNumber_padded (Nat.le_refl 2) (by decide) h

theorem readDigitRun_padded (hwidth : 0 < width) (hrest : NoDigit rest) :
    readDigitRun ((padded width n).toList ++ rest) = some (n, rest) := by
  have hlength : width ≤ (padded width n).toList.length := le_length_padded
  rw [readDigitRun, readNumber_append (fun _ => isDigit_of_mem_padded) (by omega)
    (by rw [List.length_append]; omega) (.inr hrest), digitsValue_padded]

theorem readField_padded (h : n < 100) :
    readField ((padded 2 n).toList ++ rest) = some (n, rest) := by
  obtain ⟨c, cs, hcs, hc⟩ := exists_padded (n := n) (by decide : 0 < 2)
  have hskip : skipBlanks ((padded 2 n).toList ++ rest) =
      some ((), (padded 2 n).toList ++ rest) := by
    rw [hcs, List.cons_append, skipBlanks, dropBlanks_cons (isBlank_of_isDigit hc)]
  rw [readField, bind_eq hskip]
  exact readNumber_padded (by decide) (by decide) h

/-! ## Dates -/

theorem readYear_of_isDigit {c : Char} {cs : List Char} (h : c.isDigit = true) :
    readYear (c :: cs) = (readNumber 1 4 (c :: cs)).map fun (n, rest) => ((n : Int), rest) := by
  unfold readYear
  split
  · rename_i heq
    rw [(List.cons.inj heq).1] at h
    exact absurd h (by decide)
  · rename_i heq
    rw [(List.cons.inj heq).1] at h
    exact absurd h (by decide)
  · rfl

theorem readYear_minus (cs : List Char) :
    readYear ('-' :: cs) = (readDigitRun cs).map fun (n, rest) => (-(n : Int), rest) := rfl

theorem readYear_plus (cs : List Char) :
    readYear ('+' :: cs) = (readDigitRun cs).map fun (n, rest) => ((n : Int), rest) := rfl

theorem yearText_cases (year : Int) :
    (year < 0 ∧ (yearText year).toList = '-' :: (padded 4 year.natAbs).toList) ∨
    (0 ≤ year ∧ year ≤ 9999 ∧ (yearText year).toList = (padded 4 year.natAbs).toList) ∨
    (0 ≤ year ∧ (yearText year).toList = '+' :: (padded 4 year.natAbs).toList) := by
  unfold yearText
  by_cases hneg : year < 0
  · rw [if_pos hneg, String.toList_append]
    exact .inl ⟨hneg, rfl⟩
  rw [if_neg hneg]
  by_cases hfour : year ≤ 9999
  · rw [if_pos hfour]
    exact .inr (.inl ⟨by omega, hfour, rfl⟩)
  · rw [if_neg hfour, String.toList_append]
    exact .inr (.inr ⟨by omega, rfl⟩)

theorem readNumber_year {year : Int} (hleast : least ≤ 4) (hpos : 0 ≤ year) (hfour : year ≤ 9999) :
    readNumber least 4 ((padded 4 year.natAbs).toList ++ rest) = some (year.natAbs, rest) := by
  have hlt : year.natAbs < 10000 := by omega
  exact readNumber_padded hleast (by decide) hlt

/-- **A year is read back**, if no digit follows it. -/
theorem readYear_yearText (year : Int) (hrest : NoDigit rest) :
    readYear ((yearText year).toList ++ rest) = some (year, rest) := by
  have hrun : readDigitRun ((padded 4 year.natAbs).toList ++ rest) = some (year.natAbs, rest) :=
    readDigitRun_padded (by decide) hrest
  rcases yearText_cases year with ⟨hneg, htext⟩ | ⟨hpos, hfour, htext⟩ | ⟨hpos, htext⟩
  · have hyear : -(year.natAbs : Int) = year := by omega
    rw [htext, List.cons_append, readYear_minus, hrun, Option.map_some]
    dsimp only
    rw [hyear]
  · have hyear : (year.natAbs : Int) = year := by omega
    have hnumber : readNumber 1 4 ((padded 4 year.natAbs).toList ++ rest) =
        some (year.natAbs, rest) := readNumber_year (by decide) hpos hfour
    obtain ⟨c, cs, hcs, hc⟩ := exists_padded (n := year.natAbs) (by decide : 0 < 4)
    rw [htext]
    rw [hcs, List.cons_append] at hnumber ⊢
    rw [readYear_of_isDigit hc, hnumber, Option.map_some]
    dsimp only
    rw [hyear]
  · have hyear : (year.natAbs : Int) = year := by omega
    rw [htext, List.cons_append, readYear_plus, hrun, Option.map_some]
    dsimp only
    rw [hyear]

theorem skipBlanks_yearText (year : Int) :
    skipBlanks ((yearText year).toList ++ rest) = some ((), (yearText year).toList ++ rest) := by
  rw [skipBlanks]
  rcases yearText_cases year with ⟨-, htext⟩ | ⟨-, -, htext⟩ | ⟨-, htext⟩
  · rw [htext, List.cons_append, dropBlanks_cons (by decide)]
  · obtain ⟨c, cs, hcs, hc⟩ := exists_padded (n := year.natAbs) (by decide : 0 < 4)
    rw [htext, hcs, List.cons_append, dropBlanks_cons (isBlank_of_isDigit hc)]
  · rw [htext, List.cons_append, dropBlanks_cons (by decide)]

end Reader

namespace CivilDate

theorem lt_hundred {c : CivilDate} (h : c.valid = true) : c.month < 100 ∧ c.day < 100 := by
  have hdays : daysInMonth c.year c.month ≤ 31 := by
    unfold daysInMonth
    split_ifs <;> decide
  simp only [valid, Bool.and_eq_true, decide_eq_true_eq] at h
  omega

end CivilDate

namespace Date

theorem valid_civil (d : Date) : d.civil.valid = true := (CivilDate.dayNumber_ofDayNumber d.day).1

/-- **The date of its own civil form.** -/
theorem ofCivil?_civil (d : Date) : ofCivil? d.civil = some d := by
  rw [ofCivil?, if_pos d.valid_civil, civil, (CivilDate.dayNumber_ofDayNumber d.day).2, ofDay?_day]

theorem toList_text (d : Date) : d.text.toList = (yearText d.civil.year).toList ++
    '-' :: ((padded 2 d.civil.month).toList ++ '-' :: (padded 2 d.civil.day).toList) := by
  have hhyphen : "-".toList = ['-'] := rfl
  simp only [text, String.toList_append, List.append_assoc, hhyphen, List.cons_append,
    List.nil_append]

/-- **A date is read off the front of a text**, whatever follows it. -/
theorem readCivil_text (d : Date) (rest : List Char) :
    Reader.readCivil false (d.text.toList ++ rest) = some (d.civil, rest) := by
  obtain ⟨hmonth, hday⟩ := CivilDate.lt_hundred d.valid_civil
  simp only [toList_text, List.append_assoc, List.cons_append]
  rw [Reader.readCivil, Reader.bind_eq (Reader.skipBlanks_yearText _),
    Reader.bind_eq (Reader.readYear_yearText _ (Reader.noDigit_cons (by decide))),
    Reader.bind_eq (Reader.readSeparator_cons _ _), Reader.bind_eq (Reader.readField_padded hmonth),
    Reader.bind_eq (Reader.readSeparator_cons _ _), Reader.bind_eq (Reader.readField_padded hday)]
  rfl

/-- **A date is read back from its written form.** -/
theorem read?_text (d : Date) : read? d.text = some d := by
  have hcivil := d.readCivil_text []
  rw [List.append_nil] at hcivil
  rw [read?, Reader.readAll, hcivil]
  exact d.ofCivil?_civil

end Date

/-! ## Instants -/

namespace Reader

variable {rest : List Char} {width n : Nat}

/-- **A fraction is read back as nanoseconds.** -/
theorem readFraction_padded (hwidth : 0 < width) (hnine : width ≤ 9) (h : n < Nat.pow 10 width)
    (hrest : NoDigit rest) : readFraction ('.' :: ((padded width n).toList ++ rest)) =
      some (n * Nat.pow 10 (9 - width), rest) := by
  have hlength : (padded width n).toList.length = width := length_padded hwidth h
  have hdigits : ∀ c ∈ (padded width n).toList, c.isDigit = true := fun _ => isDigit_of_mem_padded
  have htake : (((padded width n).toList ++ rest).take 9).takeWhile Char.isDigit =
      (padded width n).toList := takeWhile_take hdigits (hlength.symm ▸ hnine) (.inr hrest)
  have hne : (padded width n).toList.isEmpty = false := by
    rw [List.isEmpty_eq_false_iff_exists_mem, ← List.length_pos_iff_exists_mem]
    omega
  have hdrop : ((padded width n).toList ++ rest).dropWhile Char.isDigit = rest := by
    rw [List.dropWhile_append_of_pos hdigits]
    cases rest with
    | nil => rfl
    | cons c rest => rw [List.dropWhile_cons_of_neg (by simp [hrest c rfl])]
  rw [readFraction, htake, if_neg (by simp [hne]), hdrop, digitsValue_padded, hlength]

theorem readFraction_exact (hwidth : 0 < width) (hnine : width ≤ 9) (h : n < 1000000000)
    (hexact : n % Nat.pow 10 (9 - width) = 0) (hrest : NoDigit rest) :
    readFraction (("." ++ padded width (n / Nat.pow 10 (9 - width))).toList ++ rest) =
      some (n, rest) := by
  have hpow : Nat.pow 10 (9 - width) * Nat.pow 10 width = 1000000000 := by
    change 10 ^ (9 - width) * 10 ^ width = 10 ^ 9
    rw [← Nat.pow_add, Nat.sub_add_cancel hnine]
  have hlt : n / Nat.pow 10 (9 - width) < Nat.pow 10 width :=
    Nat.div_lt_of_lt_mul (hpow.symm ▸ h)
  have hpoint : ".".toList = ['.'] := rfl
  rw [String.toList_append, List.append_assoc, hpoint, List.singleton_append,
    readFraction_padded hwidth hnine hlt hrest, Nat.div_mul_cancel (Nat.dvd_of_mod_eq_zero hexact)]

/-- **Nanoseconds are read back from a fraction**, however many digits it has. -/
theorem readFraction_fractionText (h : n < 1000000000) :
    readFraction ((fractionText n).toList ++ 'Z' :: rest) = some (n, 'Z' :: rest) := by
  have hrest : NoDigit ('Z' :: rest) := noDigit_cons (by decide)
  unfold fractionText
  by_cases hzero : n = 0
  · rw [if_pos hzero, hzero]
    rfl
  rw [if_neg hzero]
  by_cases hmillis : n % 1000000 = 0
  · rw [if_pos hmillis]
    exact readFraction_exact (by decide : 0 < 3) (by decide) h hmillis hrest
  rw [if_neg hmillis]
  by_cases hmicros : n % 1000 = 0
  · rw [if_pos hmicros]
    exact readFraction_exact (by decide : 0 < 6) (by decide) h hmicros hrest
  rw [if_neg hmicros]
  have hpoint : ".".toList = ['.'] := rfl
  have hone : Nat.pow 10 (9 - 9) = 1 := rfl
  rw [String.toList_append, List.append_assoc, hpoint, List.singleton_append,
    readFraction_padded (by decide) (Nat.le_refl 9) h hrest, hone, Nat.mul_one]

theorem readDateTimeMark_t (rest : List Char) :
    readDateTimeMark ('T' :: rest) = some ((), rest) := rfl

theorem readOffset_z (separator : Reader Unit) (rest : List Char) :
    readOffset separator ('Z' :: rest) = some (0, rest) := rfl

end Reader

namespace Instant

variable (t : Instant)

/-- The seconds of the day that are over. -/
def secondOfDay : Nat := (t.seconds % secondsPerDay).toNat

theorem secondOfDay_lt : t.secondOfDay < 86400 := by
  simp only [secondOfDay, secondsPerDay]
  omega

theorem day_mul_add_secondOfDay :
    t.date.day * secondsPerDay + t.secondOfDay = t.seconds := by
  simp only [date, secondOfDay, secondsPerDay]
  omega

/-- The second of the minute, in writing. -/
def writtenSecond : Nat := t.secondOfDay % 60 + if t.isLeap then 1 else 0

theorem writtenSecond_le : t.writtenSecond ≤ 60 := by
  unfold writtenSecond
  split <;> omega

theorem secondOfDay_mod : ((t.secondOfDay % 60 : Nat) : Int) = t.seconds % 60 := by
  simp only [secondOfDay, secondsPerDay]
  omega

/-- **A leap second at the end of a minute is written as the second 60**, and its nanoseconds
without the billion. -/
theorem written_of_isLeap (h : t.isLeap = true) (hminute : t.seconds % 60 = 59) :
    t.writtenSecond = 60 ∧ t.secondOfDay % 60 = 59 ∧
      t.nanos % 1000000000 + 1000000000 = t.nanos := by
  have hleap : 1000000000 ≤ t.nanos := of_decide_eq_true h
  have hlt : t.nanos < 2000000000 := t.nanos_lt
  have hmod := t.secondOfDay_mod
  have hsecond : t.secondOfDay % 60 = 59 := by omega
  refine ⟨?_, hsecond, by omega⟩
  rw [writtenSecond, h, hsecond, if_pos rfl]

theorem written_of_not_isLeap (h : t.isLeap = false) :
    t.writtenSecond = t.secondOfDay % 60 ∧ t.nanos % 1000000000 = t.nanos := by
  have hnanos : ¬ 1000000000 ≤ t.nanos := of_decide_eq_false h
  refine ⟨?_, by omega⟩
  rw [writtenSecond, h, if_neg Bool.false_ne_true, Nat.add_zero]

theorem of?_seconds : of? t.seconds t.nanos = some t :=
  dif_pos ⟨⟨t.first_le, t.lt_end⟩, t.nanos_lt⟩

/-- **Date and time of day in writing stand for the instant**, unless it is in a leap second inside
of a minute. -/
theorem ofLocal?_written (hminute : t.isLeap = true → t.seconds % 60 = 59) :
    ofLocal? t.date.civil (t.secondOfDay / 3600) (t.secondOfDay / 60 % 60) t.writtenSecond
      (t.nanos % 1000000000) 0 = some t := by
  have hlt : t.secondOfDay < 86400 := t.secondOfDay_lt
  have hday : t.date.day * secondsPerDay + t.secondOfDay = t.seconds := t.day_mul_add_secondOfDay
  rw [ofLocal?, Date.ofCivil?_civil, Option.bind_eq_bind, Option.bind_some,
    if_pos ⟨by omega, by omega, t.writtenSecond_le⟩]
  cases hleap : t.isLeap with
  | true =>
    obtain ⟨hwritten, hsecond, hnanos⟩ := t.written_of_isLeap hleap (hminute hleap)
    have hofDay : t.secondOfDay / 3600 * 3600 + t.secondOfDay / 60 % 60 * 60 + 59 =
        t.secondOfDay := by omega
    simp only [hwritten, if_true, hnanos, hofDay, hday, Int.sub_zero]
    exact t.of?_seconds
  | false =>
    obtain ⟨hwritten, hnanos⟩ := t.written_of_not_isLeap hleap
    have hofDay : t.secondOfDay / 3600 * 3600 + t.secondOfDay / 60 % 60 * 60 +
        t.secondOfDay % 60 = t.secondOfDay := by omega
    have hne : ¬ t.secondOfDay % 60 = 60 := by omega
    simp only [hwritten, if_neg hne, hnanos, hofDay, hday, Int.sub_zero]
    exact t.of?_seconds

theorem toList_text : t.text.toList = t.date.text.toList ++
    'T' :: ((padded 2 (t.secondOfDay / 3600)).toList ++ ':' ::
      ((padded 2 (t.secondOfDay / 60 % 60)).toList ++ ':' :: ((padded 2 t.writtenSecond).toList ++
        ((fractionText (t.nanos % 1000000000)).toList ++ ['Z'])))) := by
  have hmark : "T".toList = ['T'] := rfl
  have hcolon : ":".toList = [':'] := rfl
  have hzone : "Z".toList = ['Z'] := rfl
  simp only [text, secondOfDay, writtenSecond, String.toList_append, List.append_assoc, hmark,
    hcolon, hzone, List.cons_append, List.nil_append]

open Reader

/-- **An instant of a year with four digits is read back from its written form**, unless it is in a
leap second inside of a minute. -/
theorem read?_text (hfirst : 0 ≤ t.date.civil.year) (hlast : t.date.civil.year ≤ 9999)
    (hminute : t.isLeap = true → t.seconds % 60 = 59) : read? t.text = some t := by
  have hlt : t.secondOfDay < 86400 := t.secondOfDay_lt
  have hsecond : t.writtenSecond ≤ 60 := t.writtenSecond_le
  have hnanos : t.nanos % 1000000000 < 1000000000 := Nat.mod_lt _ (by decide)
  obtain ⟨hmonth, hday⟩ := CivilDate.lt_hundred t.date.valid_civil
  have hyear : ((t.date.civil.year.natAbs : Nat) : Int) = t.date.civil.year := by omega
  have hwritten : yearText t.date.civil.year = padded 4 t.date.civil.year.natAbs := by
    rw [yearText, if_neg (by omega), if_pos hlast]
  have hread : readInstant t.text.toList = some (t, []) := by
    rw [toList_text, Date.toList_text, hwritten]
    simp only [List.append_assoc, List.cons_append]
    rw [readInstant, bind_eq (readNumber_year (Nat.le_refl 4) hfirst hlast),
      bind_eq (readChar_cons _ _), bind_eq (readTwo_padded hmonth),
      bind_eq (readChar_cons _ _), bind_eq (readTwo_padded hday),
      bind_eq (readDateTimeMark_t _), bind_eq (readTwo_padded (by omega)),
      bind_eq (readChar_cons _ _), bind_eq (readTwo_padded (by omega)),
      bind_eq (readChar_cons _ _), bind_eq (readTwo_padded (by omega)),
      bind_eq (readFraction_fractionText hnanos), bind_eq (readOffset_z _ _), hyear,
      t.ofLocal?_written hminute]
    rfl
  rw [read?, readAll, hread]

/-- **A leap second inside of a minute is written like the second after it.** -/
theorem exists_text_eq (hleap : t.isLeap = true) (hminute : t.seconds % 60 ≠ 59) :
    ∃ u : Instant, u.seconds = t.seconds + 1 ∧ u.nanos + 1000000000 = t.nanos ∧
      u.isLeap = false ∧ u.date = t.date ∧ u.text = t.text := by
  have hbillion : 1000000000 ≤ t.nanos := of_decide_eq_true hleap
  have hlt : t.nanos < 2000000000 := t.nanos_lt
  -- The end of the representable instants is the end of a minute, so there is a next second.
  have hend : t.seconds + 1 < (Date.lastDay + 1) * secondsPerDay := by
    have := t.lt_end
    simp only [Date.lastDay, secondsPerDay] at *
    omega
  let u : Instant :=
    ⟨t.seconds + 1, t.nanos - 1000000000, by have := t.first_le; omega, hend, by omega⟩
  have huleap : u.isLeap = false := decide_eq_false (by change ¬ _ ≤ t.nanos - _; omega)
  have hdate : u.date = t.date := by
    simp only [u, date, secondsPerDay, Date.mk.injEq]
    omega
  have hsecond : u.secondOfDay = t.secondOfDay + 1 := by
    simp only [u, secondOfDay, secondsPerDay]
    omega
  have hmod := t.secondOfDay_mod
  have hwritten : u.writtenSecond = t.writtenSecond := by
    rw [writtenSecond, writtenSecond, huleap, hleap, hsecond, if_neg Bool.false_ne_true, if_pos rfl]
    omega
  have hhour : u.secondOfDay / 3600 = t.secondOfDay / 3600 := by omega
  have hminutes : u.secondOfDay / 60 % 60 = t.secondOfDay / 60 % 60 := by omega
  have hnanos : u.nanos % 1000000000 = t.nanos % 1000000000 := by
    change (t.nanos - 1000000000) % 1000000000 = _
    omega
  refine ⟨u, rfl, Nat.sub_add_cancel hbillion, huleap, hdate, String.toList_inj.1 ?_⟩
  rw [toList_text, toList_text, hdate, hhour, hminutes, hwritten, hnanos]

end Instant

namespace Date

/-- **No written instant is read as a date**, for the time of day is left over. -/
theorem read?_instantText (t : Instant) : read? t.text = none := by
  rw [read?, Reader.readAll, Instant.toList_text, readCivil_text]
  rfl

end Date

end FilterQuery

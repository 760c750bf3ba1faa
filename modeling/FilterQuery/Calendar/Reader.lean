import FilterQuery.Calendar.Instant
import FilterQuery.Text.Blank
import FilterQuery.Text.Number

/-!
# Reading dates and instants

Readers consume the front of a list of characters. There is a plain and a lenient form of each
text: the plain date is hyphenated numbers, each of which may have blanks in front, and the plain
instant is an exact date and time with an offset; the lenient ones allow blanks at more places.

* `readNumber`, `readYear`: runs of digits of bounded length, signed years of any length;
* `Date.read?`, `Date.readLenient?`;
* `Instant.read?`, `Instant.readLenient?`.
-/

namespace FilterQuery

open Text

/-- A reader returns what it read and the characters left over, or fails. -/
abbrev Reader (α : Type) := StateT (List Char) Option α

namespace Reader

/-- A number of `least` to `most` decimal digits, as many as there are. -/
def readNumber (least most : Nat) : Reader Nat := fun cs =>
  let ds := (cs.take most).takeWhile Char.isDigit
  if ds.length < least then none else some (digitsValue ds, cs.drop ds.length)

/-- A number of one or more digits. -/
def readDigitRun : Reader Nat := fun cs => readNumber 1 cs.length cs

/-- One given character. -/
def readChar (c : Char) : Reader Unit
  | [] => none
  | d :: cs => if d = c then some ((), cs) else none

def skipBlanks : Reader Unit := fun cs => some ((), dropBlanks cs)

/-- Blanks and colons. -/
def skipColonOrBlanks : Reader Unit := fun cs =>
  some ((), cs.dropWhile fun c => c == ':' || isBlank c)

/-- A year: up to four digits, or a sign and digits without limit. -/
def readYear : Reader Int
  | '-' :: cs => (readDigitRun cs).map fun (n, rest) => (-(n : Int), rest)
  | '+' :: cs => (readDigitRun cs).map fun (n, rest) => ((n : Int), rest)
  | cs => (readNumber 1 4 cs).map fun (n, rest) => ((n : Int), rest)

/-- Blanks and then a number of one or two digits. -/
def readField : Reader Nat := do
  skipBlanks
  readNumber 1 2

/-- A separator; with `lenient`, blanks may stand before it. -/
def readSeparator (lenient : Bool) (c : Char) : Reader Unit := do
  if lenient then skipBlanks
  readChar c

/-- Year, month and day with hyphens between them and optional blanks before each. -/
def readCivil (lenient : Bool) : Reader CivilDate := do
  skipBlanks
  let year ← readYear
  readSeparator lenient '-'
  let month ← readField
  readSeparator lenient '-'
  let day ← readField
  pure ⟨year, month, day⟩

/-- An optional point and fraction, in nanoseconds. Digits after the ninth are dropped. -/
def readFraction : Reader Nat
  | '.' :: cs => do
    let ds := (cs.take 9).takeWhile Char.isDigit
    if ds.isEmpty then none
    else some (digitsValue ds * Nat.pow 10 (9 - ds.length), cs.dropWhile Char.isDigit)
  | cs => some (0, cs)

/-- The sign of an offset from universal time. -/
def readSign : Reader Int
  | '+' :: cs => some (1, cs)
  | '-' :: cs => some (-1, cs)
  | '−' :: cs => some (-1, cs)
  | _ => none

/-- An offset from universal time in seconds: the letter Z, or a sign, hours and minutes with
`separator` between them, and less than a day. -/
def readOffset (separator : Reader Unit) : Reader Int
  | 'Z' :: cs => some (0, cs)
  | 'z' :: cs => some (0, cs)
  | cs => (do
      let sign ← readSign
      let hours ← readNumber 2 2
      separator
      let minutes ← readNumber 2 2
      if hours < 24 ∧ minutes < 60 then pure (sign * (hours * 3600 + minutes * 60))
      else failure : Reader Int) cs

/-- The letter T in either case, or a space. -/
def readDateTimeMark : Reader Unit
  | 'T' :: cs | 't' :: cs | ' ' :: cs => some ((), cs)
  | _ => none

end Reader

/-- A date and a time of day, as seconds and nanoseconds of the day, at an offset. The second 60
stands for the leap second after 59, in whichever minute. -/
def Instant.ofLocal? (c : CivilDate) (hour minute second nanos : Nat) (offset : Int) :
    Option Instant := do
  let date ← Date.ofCivil? c
  if hour < 24 ∧ minute < 60 ∧ second ≤ 60 then
    let (second, nanos) := if second = 60 then (59, nanos + 1000000000) else (second, nanos)
    let ofDay := hour * 3600 + minute * 60 + second
    Instant.of? (date.day * secondsPerDay + ofDay - offset) nanos
  else none

namespace Reader

/-- An instant in the plain form. -/
def readInstant : Reader Instant := do
  let year ← readNumber 4 4
  readChar '-'
  let month ← readNumber 2 2
  readChar '-'
  let day ← readNumber 2 2
  readDateTimeMark
  let hour ← readNumber 2 2
  readChar ':'
  let minute ← readNumber 2 2
  readChar ':'
  let second ← readNumber 2 2
  let nanos ← readFraction
  let offset ← readOffset (readChar ':')
  (Instant.ofLocal? ⟨year, month, day⟩ hour minute second nanos offset : Option Instant)

/-- An offset, or the letters UTC in any case. -/
def readOffsetOrUtc : Reader Int
  | u :: t :: c :: cs =>
    if u.toUpper = 'U' ∧ t.toUpper = 'T' ∧ c.toUpper = 'C' then some (0, cs)
    else readOffset skipColonOrBlanks (u :: t :: c :: cs)
  | cs => readOffset skipColonOrBlanks cs

/-- An instant in the lenient form. -/
def readLenientInstant : Reader Instant := do
  let civil ← readCivil true
  readDateTimeMark
  let hour ← readField
  readSeparator true ':'
  let minute ← readField
  readSeparator true ':'
  let second ← readField
  let nanos ← readFraction
  skipBlanks
  let offset ← readOffsetOrUtc
  (Instant.ofLocal? civil hour minute second nanos offset : Option Instant)

/-- What a reader reads, and blanks after it. -/
def thenBlanks {α : Type} (r : Reader α) : Reader α := do
  let a ← r
  skipBlanks
  pure a

/-- Use a reader on a whole text. -/
def readAll {α : Type} (r : Reader α) (s : String) : Option α :=
  match r s.toList with
  | some (a, []) => some a
  | _ => none

end Reader

/-- A date in the plain form. -/
def Date.read? (s : String) : Option Date :=
  (Reader.readAll (Reader.readCivil false) s).bind Date.ofCivil?

/-- A date with optional blanks around its hyphens and at its end. -/
def Date.readLenient? (s : String) : Option Date :=
  (Reader.readAll (Reader.thenBlanks (Reader.readCivil true)) s).bind Date.ofCivil?

/-- An instant in the plain form. -/
def Instant.read? (s : String) : Option Instant := Reader.readAll Reader.readInstant s

/-- An instant in the lenient form, with optional blanks at its end. -/
def Instant.readLenient? (s : String) : Option Instant :=
  Reader.readAll (Reader.thenBlanks Reader.readLenientInstant) s

end FilterQuery

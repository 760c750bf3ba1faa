/-!
# Whole numbers in decimal text

* `digitsValue`, `padded`: what a run of digits is worth, and a number written with at least a given
  count of digits;
* `readWord`: the whole text as a number of at most 64 bits, or the first thing wrong with it,
  scanning from the left.
-/

namespace FilterQuery.Text

/-- The number that a run of decimal digits stands for. -/
def digitsValue (ds : List Char) : Nat := Nat.ofDigitChars 10 ds 0

/-- A number in decimal, with zeros in front up to `width` digits. -/
def padded (width n : Nat) : String :=
  String.ofList ((Nat.toDigits 10 n).leftpad width '0')

theorem digitsValue_toDigits (n : Nat) : digitsValue (Nat.toDigits 10 n) = n :=
  Nat.ofDigitChars_ten_toDigits

/-- Why a text is not a 64-bit number. -/
inductive NumberFault where
  /-- There is no character at all. -/
  | empty
  /-- A character is no digit, or a sign stands alone. -/
  | invalidDigit
  /-- The digits read so far exceed 64 bits. -/
  | tooLarge
deriving DecidableEq, Repr

/-- The words for a fault. -/
def NumberFault.message : NumberFault → String
  | .empty => "cannot parse integer from empty string"
  | .invalidDigit => "invalid digit found in string"
  | .tooLarge => "number too large to fit in target type"

/-- Append the digits `cs` to the number read so far. -/
def readDigits (n : Nat) : List Char → Except NumberFault Nat
  | [] => .ok n
  | c :: cs =>
    if c.isDigit then
      let m := 10 * n + (c.toNat - '0'.toNat)
      if m < UInt64.size then readDigits m cs else .error .tooLarge
    else .error .invalidDigit

/-- A 64-bit number: an optional `+`, then at least one digit and nothing else. -/
def readWord (s : String) : Except NumberFault Nat :=
  match s.toList with
  | [] => .error .empty
  | ['+'] => .error .invalidDigit
  | '+' :: cs => readDigits 0 cs
  | cs => readDigits 0 cs

end FilterQuery.Text

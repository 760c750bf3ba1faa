/-!
# Double-precision numbers

A number in the 64-bit binary interchange format, held as its bits: the sign, eleven bits of
exponent and 52 of fraction. Rounding is exact arithmetic on natural numbers.

* `Double.significand`, `Double.exponent`: a finite magnitude is `significand * 2 ^ exponent`;
* `Double.ofRatio`: the double nearest to a quotient, ties to the even significand;
* `Double.ofInt`.
-/

namespace FilterQuery

/-- A double-precision number, as its bits. -/
structure Double where
  bits : UInt64
deriving DecidableEq, Repr

namespace Double

def isNegative (x : Double) : Bool := Nat.pow 2 63 ≤ x.bits.toNat

/-- The bits without the sign. -/
def magnitude (x : Double) : Nat := x.bits.toNat % Nat.pow 2 63

/-- Neither infinite nor a NaN. -/
def isFinite (x : Double) : Bool := x.magnitude < 2047 * Nat.pow 2 52

def exponentField (x : Double) : Nat := x.magnitude / Nat.pow 2 52

def fraction (x : Double) : Nat := x.magnitude % Nat.pow 2 52

/-- The whole number that the power of two multiplies. -/
def significand (x : Double) : Nat :=
  if x.exponentField = 0 then x.fraction else Nat.pow 2 52 + x.fraction

/-- The exponent of the power of two. -/
def exponent (x : Double) : Int :=
  if x.exponentField = 0 then -1074 else (x.exponentField : Int) - 1075

/-- The double with a sign and a magnitude given by its bits. -/
def ofMagnitude (negative : Bool) (m : Nat) : Double :=
  ⟨UInt64.ofNat (if negative then Nat.pow 2 63 + m else m)⟩

/-- The double beyond all finite ones, on either side. -/
def infinity (negative : Bool) : Double := ofMagnitude negative (2047 * Nat.pow 2 52)

/-- The natural number nearest to a quotient, ties to even. -/
def roundQuotient (num den : Nat) : Nat :=
  let q := num / den
  let r := num % den
  if 2 * r < den then q
  else if den < 2 * r then q + 1
  else if q % 2 = 0 then q else q + 1

/-- The exponent of the greatest power of two that is at most `num / den`. -/
def binaryOrder (num den : Nat) : Int :=
  let e : Int := (num.log2 : Int) - den.log2
  let fits := if 0 ≤ e then den * Nat.pow 2 e.toNat ≤ num else den ≤ num * Nat.pow 2 (-e).toNat
  if fits then e else e - 1

/-- The double nearest to `num / den`, or an infinity beyond the largest one. -/
def ofRatio (negative : Bool) (num den : Nat) : Double :=
  if num = 0 then ofMagnitude negative 0
  else
    let scale := max (binaryOrder num den - 52) (-1074)
    let m :=
      if 0 ≤ scale then roundQuotient num (den * Nat.pow 2 scale.toNat)
      else roundQuotient (num * Nat.pow 2 (-scale).toNat) den
    ofMagnitude negative (min ((scale + 1074).toNat * Nat.pow 2 52 + m) (2047 * Nat.pow 2 52))

/-- The double nearest to a whole number. -/
def ofInt (n : Int) : Double := ofRatio (n < 0) n.natAbs 1

end Double

end FilterQuery

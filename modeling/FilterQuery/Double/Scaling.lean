import FilterQuery.Double.Basic

/-!
# Scaling by powers of ten

A double times a power of ten, where the power is a double itself and each step rounds.

* `Double.product`, `Double.quotient`: product and quotient of finite doubles, rounded once;
* `Double.scaled`: a double times a power of ten.
-/

namespace FilterQuery.Double

/-- The magnitude of a finite double is `numerator / denominator`. -/
def numerator (x : Double) : Nat := x.significand * Nat.pow 2 x.exponent.toNat

def denominator (x : Double) : Nat := Nat.pow 2 (-x.exponent).toNat

/-- The product of finite doubles. -/
def product (x y : Double) : Double :=
  ofRatio (x.isNegative != y.isNegative) (x.numerator * y.numerator)
    (x.denominator * y.denominator)

/-- The quotient of finite doubles, of which the second is not zero. -/
def quotient (x y : Double) : Double :=
  ofRatio (x.isNegative != y.isNegative) (x.numerator * y.denominator)
    (x.denominator * y.numerator)

/-- The greatest power of ten that is a finite double. -/
def greatestPower : Nat := 308

/-- A power of ten up to the greatest. -/
def powerOfTen (k : Nat) : Double := ofRatio false (Nat.pow 10 k) 1

/-- A double below 10²⁰ divided by a power of ten, by the greatest one first if it is beyond that.
Two of those leave nothing of the double. -/
def dividedByPower (x : Double) (k : Nat) : Double :=
  if k ≤ greatestPower then x.quotient (powerOfTen k)
  else if k ≤ 2 * greatestPower then
    (x.quotient (powerOfTen greatestPower)).quotient (powerOfTen (k - greatestPower))
  else ofMagnitude x.isNegative 0

/-- A double below 10²⁰ times a power of ten. Beyond the largest double it is an infinity. -/
def scaled (x : Double) (e : Int) : Double :=
  if x.magnitude = 0 then x
  else if e < 0 then x.dividedByPower (-e).toNat
  else if e.toNat ≤ greatestPower then x.product (powerOfTen e.toNat)
  else infinity x.isNegative

end FilterQuery.Double

import FilterQuery.Double.Basic

/-!
# Doubles in decimal

The digits of a finite double are those of the coarsest decimal grid that has a point between the
midpoints to its two neighbours; of two such points the one nearer to the double, and on a tie the
even one. A midpoint counts when the significand is even.

* `Double.shortest`: digits and exponent of ten of a finite, non-zero double;
* `Layout`, `Double.text`: where the digits are written out and where an exponent stands.
-/

namespace FilterQuery

namespace Double

/-- A decimal number `digits * 10 ^ exponent`. -/
structure Decimal where
  digits : Nat
  exponent : Int
deriving DecidableEq, Repr

/-- The gap to the double below is half of the gap above. -/
def isPowerOfTwo (x : Double) : Bool := x.fraction == 0 && 1 < x.exponentField

/-- The point of the grid of multiples of `10 ^ grid` that reads back as the double, if any. The
double, its midpoints and the grid are brought to one denominator. -/
def onGrid? (x : Double) (grid : Int) : Option Nat :=
  let quarter := x.exponent - 2
  let unit := Nat.pow 2 quarter.toNat * Nat.pow 10 (-grid).toNat
  let step := Nat.pow 10 grid.toNat * Nat.pow 2 (-quarter).toNat
  let value := 4 * x.significand * unit
  let low := (4 * x.significand - (if x.isPowerOfTwo then 1 else 2)) * unit
  let high := (4 * x.significand + 2) * unit
  let inside (p : Nat) : Bool :=
    if x.significand % 2 = 0 then low ≤ p && p ≤ high else low < p && p < high
  let below := value / step
  let nearer :=
    if 2 * value < (2 * below + 1) * step then below
    else if (2 * below + 1) * step < 2 * value then below + 1
    else if below % 2 = 0 then below else below + 1
  let other := if nearer = below then below + 1 else below
  if nearer ≠ 0 ∧ inside (nearer * step) then some nearer
  else if other ≠ 0 ∧ inside (other * step) then some other
  else none

/-- The coarsest of the grids `10 ^ from`, …, `10 ^ (from - steps)` with such a point. -/
def search (x : Double) (grid : Int) : Nat → Decimal
  | 0 => ⟨0, 0⟩
  | steps + 1 =>
    match x.onGrid? grid with
    | some d => ⟨d, grid⟩
    | none => search x (grid - 1) steps

/-- The shortest decimal that reads back. The finest grid of the search holds every double. -/
def shortest (x : Double) : Decimal := x.search 309 1400

end Double

/-- Where a decimal point may stand before an exponent is written instead: a number below
`10 ^ most` and not below `10 ^ (least - 1)` is written out. -/
structure Layout where
  least : Int
  most : Int

namespace Layout

/-- Numbers of up to sixteen whole digits and of up to four zeros after the point are written
out. -/
def plain : Layout := ⟨-4, 16⟩

/-- An exponent with its sign, which zero does not have. -/
def signed (e : Int) : String := if 0 < e then "+" ++ toString e else toString e

/-- Digits, and a power of ten that they are to be multiplied with, in writing. -/
def write (l : Layout) (d : Double.Decimal) : String :=
  let ds := Nat.toDigits 10 d.digits
  let point : Int := ds.length + d.exponent
  if 0 ≤ d.exponent ∧ point ≤ l.most then
    String.ofList (ds ++ List.replicate d.exponent.toNat '0') ++ ".0"
  else if 0 < point ∧ point ≤ l.most then
    String.ofList (ds.take point.toNat) ++ "." ++ String.ofList (ds.drop point.toNat)
  else if l.least ≤ point ∧ point ≤ 0 then
    "0." ++ String.ofList (List.replicate (-point).toNat '0' ++ ds)
  else
    let tail := if ds.length = 1 then "" else "." ++ String.ofList (ds.drop 1)
    String.ofList (ds.take 1) ++ tail ++ "e" ++ signed (point - 1)

end Layout

/-- A finite double in decimal. -/
def Double.text (x : Double) : String :=
  let sign := if x.isNegative then "-" else ""
  if x.magnitude = 0 then sign ++ "0.0" else sign ++ Layout.plain.write x.shortest

end FilterQuery

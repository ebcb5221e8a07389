import Ocpp.Number.Binary64
import Ocpp.Text.Digits

/-!
# The shortest decimal text of a binary64 number

A finite number is written with the fewest decimal digits that still identify it,
and of several such decimals with the one nearest to it.

## Main definitions

* `Decade` — a decimal `coefficient * 10 ^ exponent`.
* `Magnitude.Admits m d` — the decimal `d` rounds to `m`.
* `Magnitude.shortest m` — the chosen decimal.
* `Binary64.text x` — its text: positional from `1e-5` up to `1e16`, with an
  exponent elsewhere.
-/

namespace Ocpp

/-- The decimal number `coefficient * 10 ^ exponent`. -/
structure Decade where
  /-- The digits, read as a natural number. -/
  coefficient : Nat
  /-- The power of ten of the last digit. -/
  exponent : Int
deriving DecidableEq

namespace Decade

/-- The numerator of the decimal, taken times `scale`. -/
def numerator (d : Decade) (scale : Nat) : Nat := d.coefficient * 10 ^ d.exponent.toNat * scale

/-- The denominator of the decimal. -/
def denominator (d : Decade) : Nat := 10 ^ (-d.exponent).toNat

end Decade

namespace Magnitude

/-- Half-way to the magnitude below, in units of `2 ^ (-1075)`. -/
def lowerBound (m : Magnitude) : Nat := unitsOfRank (m.rank - 1) + unitsOfRank m.rank

/-- Half-way to the magnitude above, in units of `2 ^ (-1075)`. -/
def upperBound (m : Magnitude) : Nat := unitsOfRank m.rank + unitsOfRank (m.rank + 1)

/-- The decimal `d` rounds to `m`: it lies between the two half-way points, and on
one of them only if the rank is even. -/
def Admits (m : Magnitude) (d : Decade) : Prop :=
  let n := d.numerator (2 * unitsPerOne)
  let lower := m.lowerBound * d.denominator
  let upper := m.upperBound * d.denominator
  lower ≤ n ∧ n ≤ upper ∧ (m.rank % 2 = 1 → lower < n ∧ n < upper)

instance (m : Magnitude) (d : Decade) : Decidable (m.Admits d) :=
  inferInstanceAs (Decidable (_ ∧ _ ∧ (_ → _)))

/-- The number of decimal digits before the point: the `p` with
`10 ^ (p - 1) ≤ m < 10 ^ p`, for `m` other than zero.  It is counted on `m` taken
times a power of ten that lifts every positive magnitude above one. -/
def pointPosition (m : Magnitude) : Int :=
  ((Text.digitsOfNat (m.units * 10 ^ 340 / unitsPerOne)).length : Int) - 340

/-- The largest decimal with a given last place that is not above the magnitude. -/
def floorAt (m : Magnitude) (exponent : Int) : Decade :=
  ⟨m.units * 10 ^ (-exponent).toNat / (unitsPerOne * 10 ^ exponent.toNat), exponent⟩

/-- The decimal with a given last place that rounds to the magnitude and is nearest
to it, a tie going to the even digit. -/
def nearestAt? (m : Magnitude) (exponent : Int) : Option Decade :=
  let below := m.floorAt exponent
  let above : Decade := ⟨below.coefficient + 1, exponent⟩
  let middle : Decade := ⟨2 * below.coefficient + 1, exponent⟩
  let twice := 2 * m.units * middle.denominator
  match decide (m.Admits below), decide (m.Admits above) with
  | true, true =>
    if twice < middle.numerator unitsPerOne then some below
    else if middle.numerator unitsPerOne < twice then some above
    else if below.coefficient % 2 = 0 then some below else some above
  | true, false => some below
  | false, true => some above
  | false, false => none

/-- The decimal of fewest digits that rounds to the magnitude.  Seventeen digits
always suffice. -/
def shortest (m : Magnitude) : Decade :=
  let p := m.pointPosition
  ((List.range 17).findSome? fun (k : Nat) => m.nearestAt? (p - (k + 1))).getD (m.floorAt (p - 17))

end Magnitude

namespace Decade

/-- The digits without the zeros at their end. -/
def significant (d : Decade) : List Char :=
  ((Text.digitsOfNat d.coefficient).reverse.dropWhile (· == '0')).reverse

/-- How many digits stand before the point. -/
def pointPosition (d : Decade) : Int :=
  ((Text.digitsOfNat d.coefficient).length : Int) + d.exponent

/-- The smallest point position written without an exponent. -/
def minPositional : Int := -4

/-- The largest point position written without an exponent. -/
def maxPositional : Int := 16

/-- The digits with a decimal point among them and at least one digit on either
side of it. -/
def positional (digits : List Char) (point : Int) : List Char :=
  let zeros (n : Int) : List Char := List.replicate n.toNat '0'
  if point ≤ 0 then '0' :: '.' :: (zeros (-point) ++ digits)
  else if point < digits.length then
    digits.take point.toNat ++ '.' :: digits.drop point.toNat
  else digits ++ zeros (point - digits.length) ++ ['.', '0']

/-- One digit before the point, the others after it, and an exponent whose sign is
always written. -/
def exponential (digits : List Char) (point : Int) : List Char :=
  let fraction : List Char := if digits.length ≤ 1 then [] else '.' :: digits.drop 1
  let sign := if point - 1 < 0 then '-' else '+'
  digits.take 1 ++ fraction ++ 'e' :: sign :: Text.digitsOfNat (point - 1).natAbs

/-- The text of a decimal: positional while the point stays near the digits, with
an exponent elsewhere. -/
def chars (d : Decade) : List Char :=
  let point := d.pointPosition
  if minPositional ≤ point ∧ point ≤ maxPositional then positional d.significant point
  else exponential d.significant point

end Decade

namespace Binary64

/-- The characters of the shortest decimal text of a number. -/
def chars (x : Binary64) : List Char :=
  let body := if x.isZero then ['0', '.', '0'] else x.magnitude.shortest.chars
  if x.negative then '-' :: body else body

/-- The shortest decimal text of a number. -/
def text (x : Binary64) : String := String.ofList x.chars

end Binary64

end Ocpp

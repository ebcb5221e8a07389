/-!
# Finite binary64 numbers

The finite numbers of the 64-bit binary floating-point format, held exactly.
Every finite magnitude is a whole number of units of `2 ^ (-1074)`, and the
magnitudes are ordered like their bit patterns, so a magnitude is kept as its
*rank*: the bit pattern without the sign.  Arithmetic is exact on units and is
rounded once, to nearest with ties to even.

## Main definitions

* `Magnitude` — a finite magnitude, by rank.
* `Magnitude.units` — the magnitude in units of `2 ^ (-1074)`.
* `Magnitude.nearest? num den` — the magnitude nearest to `num / den`, unless it
  is past the largest finite one.
* `Binary64` — a finite number: a sign and a magnitude.  Zero has both signs.
-/

-- Ranks and units are powers of two, and `decide` and `omega` work them out.  They know only the
-- power that numbers come with, so it is to be that one also where a proof has brought in algebra,
-- which has a general notion of power of its own.
attribute [instance (high + 1), default_instance (high + 1)] instPowNat

namespace Ocpp

/-- The quotient `num / den` rounded to the nearest natural number, a tie going to
the even neighbour. -/
def roundHalfEven (num den : Nat) : Nat :=
  let q := num / den
  let r := num % den
  if 2 * r < den then q else if den < 2 * r then q + 1 else q + q % 2

/-- The magnitude of a finite binary64 number.  `rank` is its bit pattern: zero has
rank `0`, the smallest positive magnitude rank `1`, and so on upwards. -/
structure Magnitude where
  /-- The place of the magnitude among all magnitudes, from zero up. -/
  rank : Nat
  /-- The exponent field of a finite number is below `2047`. -/
  rank_lt : rank < 2047 * 2 ^ 52
deriving DecidableEq

namespace Magnitude

/-- How many units of `2 ^ (-1074)` make one. -/
def unitsPerOne : Nat := 2 ^ 1074

/-- The magnitude of a given rank in units of `2 ^ (-1074)`: ranks below `2 ^ 52`
count units one by one, and from there on every `2 ^ 52` ranks double the step. -/
def unitsOfRank (r : Nat) : Nat :=
  if r < 2 ^ 52 then r else (2 ^ 52 + r % 2 ^ 52) * 2 ^ (r / 2 ^ 52 - 1)

/-- The magnitude in units of `2 ^ (-1074)`. -/
def units (m : Magnitude) : Nat := unitsOfRank m.rank

/-- The magnitude of a rank, when that rank is finite. -/
def ofRank? (r : Nat) : Option Magnitude :=
  if h : r < 2047 * 2 ^ 52 then some ⟨r, h⟩ else none

/-- The rank of the magnitude nearest to `num / den`, a tie going to the even rank.
The quotient is cut to 53 significant bits, fewer below the smallest normal
magnitude; a carry into the next power of two moves the rank on by itself. -/
def nearestRank (num den : Nat) : Nat :=
  let scaled := num * unitsPerOne
  let shift := (scaled / den).log2 - 52
  shift * 2 ^ 52 + roundHalfEven scaled (den * 2 ^ shift)

/-- The magnitude nearest to `num / den`, when that is finite. -/
def nearest? (num den : Nat) : Option Magnitude := ofRank? (nearestRank num den)

/-- The magnitude nearest to a natural number. -/
def ofNat? (n : Nat) : Option Magnitude := nearest? n 1

/-- Zero. -/
def zero : Magnitude := ⟨0, by decide⟩

/-- The sum, rounded. -/
def add? (a b : Magnitude) : Option Magnitude := nearest? (a.units + b.units) unitsPerOne

/-- The product, rounded. -/
def mul? (a b : Magnitude) : Option Magnitude :=
  nearest? (a.units * b.units) (unitsPerOne * unitsPerOne)

/-- The quotient by a magnitude other than zero, rounded. -/
def div? (a b : Magnitude) : Option Magnitude := nearest? a.units b.units

/-- The nearest natural number, a half going up. -/
def roundToNat (m : Magnitude) : Nat := (m.units + unitsPerOne / 2) / unitsPerOne

/-- The natural number the magnitude is, when it is one. -/
def toNat? (m : Magnitude) : Option Nat :=
  if m.units % unitsPerOne = 0 then some (m.units / unitsPerOne) else none

/-- The magnitude nearest to `10 ^ k`. -/
def powerOfTen? (k : Nat) : Option Magnitude := ofNat? (10 ^ k)

end Magnitude

/-- A finite binary64 number.  Zero comes with either sign. -/
structure Binary64 where
  /-- Whether the sign bit is set. -/
  negative : Bool
  /-- The number without its sign. -/
  magnitude : Magnitude
deriving DecidableEq

namespace Binary64

/-- Whether the number is zero, of either sign. -/
def isZero (x : Binary64) : Bool := x.magnitude.rank == 0

/-- Whether two numbers have the same value: the two zeros do. -/
def sameValue (x y : Binary64) : Bool := x == y || (x.isZero && y.isZero)

/-- The number nearest to an integer, when it is finite. -/
def ofInt? (n : Int) : Option Binary64 :=
  (Magnitude.ofNat? n.natAbs).map (Binary64.mk (decide (n < 0)))

/-- The integer the number is, when it is one. -/
def toInt? (x : Binary64) : Option Int :=
  x.magnitude.toNat?.map fun n => if x.negative then -(n : Int) else n

end Binary64

end Ocpp

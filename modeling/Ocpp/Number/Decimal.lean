import Ocpp.Number.Binary64
import Ocpp.Text.Digits

/-!
# Decimals of 96 bits

Decimal numbers with a mantissa below `2 ^ 96` and at most 28 digits after the
point, the text they are read from, and the binary64 number they are shown as.
What does not fit is rounded, a half going up.

## Main definitions

* `Decimal` — a decimal number: sign, mantissa and scale.
* `Decimal.ofPlain?` — reads digits with a point among them.
* `Decimal.ofScientific?` — reads such digits with an exponent.
* `Decimal.read?` — reads either.
* `Decimal.toBinary64?` — the binary64 number it is shown as.
-/

namespace Ocpp

/-- The decimal number `± mantissa / 10 ^ scale`.  Zero comes with either sign. -/
structure Decimal where
  negative : Bool
  mantissa : Nat
  scale : Nat
deriving DecidableEq

namespace Decimal

/-- The first number that is no mantissa. -/
def mantissaBound : Nat := 2 ^ 96

/-- How many digits there may be after the point. -/
def maxScale : Nat := 28

/-! ### Plain text -/

/-- The characters that may follow once the mantissa is full. -/
def isFiller (c : Char) : Bool := c.isDigit || c == '_'

/-- The digit that a character rounds by.  An underscore rounds like a zero, also if a
digit comes after it. -/
def roundingDigit (c : Char) : Nat := if c.isDigit then Text.digitValue c else 0

/-- From here on a mantissa is not sure to stay in a 64-bit word with one more digit. -/
def wordBound : Nat := 2 ^ 64 / 10 - 255

/-- Whether the digits before the last of a mantissa are sure to stay in a word.  An
underscore right after the 28th place rounds after such a mantissa, and is passed over
after any other. -/
def isShort (mantissa : Nat) : Bool := mantissa / 10 < wordBound

/-- A mantissa rounded by the first digit that it has no room for.  If it becomes too
long itself it gives up its last digit after the point, if it has one. -/
def roundBy? (negative : Bool) (mantissa scale : Nat) (digit : Nat) : Option Decimal :=
  if digit < 5 then some ⟨negative, mantissa, scale⟩
  else if mantissa + 1 < mantissaBound then some ⟨negative, mantissa + 1, scale⟩
  else if scale = 0 then none
  else some ⟨negative, (mantissa + 1 + 4) / 10, scale - 1⟩

/-- Ends the reading at a character that there is no room for.  It rounds the
mantissa, and the characters after it are not looked at any closer. -/
def finishAt? (negative : Bool) (mantissa scale : Nat) (c : Char) (rest : List Char) :
    Option Decimal :=
  if isFiller c && rest.all isFiller then roundBy? negative mantissa scale (roundingDigit c)
  else none

/-- Reads the text after the sign.  `point` tells whether a point has been read,
`digits` whether a digit has.  Underscores may stand anywhere after the first digit. -/
def readPlain? (negative : Bool) (mantissa scale : Nat) (point digits : Bool) :
    List Char → Option Decimal
  | [] => if digits then some ⟨negative, mantissa, scale⟩ else none
  | c :: cs =>
    if scale = maxScale then
      if c = '_' ∧ isShort mantissa = false then readPlain? negative mantissa scale point digits cs
      else finishAt? negative mantissa scale c cs
    else if c.isDigit then
      let next := mantissa * 10 + Text.digitValue c
      if next < mantissaBound then
        readPlain? negative next (if point then scale + 1 else 0) point true cs
      else if point then finishAt? negative mantissa scale c cs
      else none
    else if c = '.' ∧ point = false then readPlain? negative mantissa scale true digits cs
    else if c = '_' ∧ digits = true then readPlain? negative mantissa scale point digits cs
    else none

/-- The decimal that a text spells with an optional sign and digits with at most one
point among them.  Digits are taken in until there are 28 after the point or the
mantissa is full; the next digit rounds, or after a short mantissa the next character.
A number too large before the point is turned down. -/
def ofPlain? (cs : List Char) : Option Decimal :=
  let (negative, body) := Text.splitSign cs
  readPlain? negative 0 0 false false body

/-! ### Scientific text -/

/-- The decimal with fewer digits after the point, rounded, a half going up. -/
def rescale (d : Decimal) (scale : Nat) : Decimal :=
  if d.scale ≤ scale then d
  else
    let p := 10 ^ (d.scale - scale)
    ⟨d.negative, (d.mantissa + p / 2) / p, scale⟩

/-- The decimal taken times `10 ^ (-k)`.  Digits that would stand past the 28th place
are rounded away first. -/
def shiftDown? (d : Decimal) (k : Nat) : Option Decimal :=
  if maxScale < k then none
  else if maxScale < d.scale + k then
    some { d.rescale (maxScale - k) with scale := maxScale }
  else some { d with scale := d.scale + k }

/-- The decimal taken times `10 ^ k`, if that is in range. -/
def shiftUp? (d : Decimal) (k : Nat) : Option Decimal :=
  if k ≤ d.scale then some { d with scale := d.scale - k }
  else if maxScale < k then none
  else
    let mantissa := d.mantissa * 10 ^ (k - d.scale)
    if mantissa < mantissaBound then some ⟨d.negative, mantissa, 0⟩ else none

/-- The unsigned 32-bit number a text spells: an optional plus, then digits. -/
def exponentOfChars? (cs : List Char) : Option Nat :=
  let ds := match cs with
    | '+' :: rest => rest
    | rest => rest
  if ds.isEmpty || !ds.all Char.isDigit then none
  else
    let n := Text.natOfDigits ds
    if n < 2 ^ 32 then some n else none

/-- Whether a character opens the exponent. -/
def isExponentMark (c : Char) : Bool := c == 'e' || c == 'E'

/-- The decimal that a text spells in plain form followed by an exponent. -/
def ofScientific? (cs : List Char) : Option Decimal :=
  match cs.dropWhile (fun c => !isExponentMark c) with
  | [] => none
  | _ :: exponent => do
    let base ← ofPlain? (cs.takeWhile fun c => !isExponentMark c)
    match exponent with
    | '-' :: rest => base.shiftDown? (← exponentOfChars? rest)
    | rest => base.shiftUp? (← exponentOfChars? rest)

/-- The decimal that a text spells, in plain form or with an exponent. -/
def read? (cs : List Char) : Option Decimal := (ofPlain? cs).orElse fun _ => ofScientific? cs

/-! ### Value -/

/-- Whether the decimal is below zero. -/
def isBelowZero (d : Decimal) : Bool := d.negative && d.mantissa != 0

/-- The mantissa and scale left when up to `scale` zeros are dropped from the end of
the digits after the point. -/
def strip (mantissa : Nat) : Nat → Nat × Nat
  | 0 => (mantissa, 0)
  | scale + 1 =>
    if mantissa % 10 = 0 then strip (mantissa / 10) scale else (mantissa, scale + 1)

/-- The decimal without zeros at the end of the digits after the point. -/
def normalize (d : Decimal) : Decimal :=
  if d.mantissa = 0 then ⟨false, 0, 0⟩
  else ⟨d.negative, (strip d.mantissa d.scale).1, (strip d.mantissa d.scale).2⟩

/-- The power `10 ^ n` by repeated squaring, every product rounded.  `square` is the
power of ten that the lowest bit of `n` stands for. -/
def binaryPower? (result square : Magnitude) (bits n : Nat) : Option Magnitude := do
  match bits with
  | 0 => some result
  | bits + 1 =>
    let result ← if n % 2 = 1 then result.mul? square else some result
    if n / 2 = 0 then some result
    else binaryPower? result (← square.mul? square) bits (n / 2)

/-- The binary64 magnitude of `mantissa / 10 ^ scale`.  A whole number is
rounded once.  Otherwise the whole part and the fraction are added as binary64
numbers, and the sum is rounded to as many places as the decimal has. -/
def magnitudeOf? (mantissa scale : Nat) : Option Magnitude := do
  if scale = 0 then Magnitude.ofNat? mantissa
  else
    let places := 10 ^ scale
    let whole ← Magnitude.ofNat? (mantissa / places)
    let fraction ← (← Magnitude.ofNat? (mantissa % places)).div? (← Magnitude.ofNat? places)
    if fraction.rank = 0 then some whole
    else
      let power ← binaryPower? (← Magnitude.ofNat? 1) (← Magnitude.ofNat? 10) 5 scale
      let lifted ← (← whole.add? fraction).mul? power
      (← Magnitude.ofNat? lifted.roundToNat).div? power

/-- The binary64 number that a decimal is shown as. -/
def toBinary64? (d : Decimal) : Option Binary64 :=
  let n := d.normalize
  (magnitudeOf? n.mantissa n.scale).map (Binary64.mk n.negative)

end Decimal

end Ocpp

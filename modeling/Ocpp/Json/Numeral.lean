import Ocpp.Json.Basic
import Ocpp.Number.Shortest

/-!
# JSON numerals

The grammar of a JSON number and the value the reader gives it.  A numeral without
fraction and exponent that fits a 64-bit word is a whole number; any other is a
binary64 number, computed from at most 64 bits of its digits with one
multiplication or division by a power of ten.  That last step is fast but not
always correctly rounded.

## Main definitions

* `Numeral` — a numeral taken apart; `Numeral.ofChars?` reads one.
* `Numeral.value?` — its value, unless that is too large.
* `Number.chars` — the numeral a number is written as.
-/

namespace Ocpp

/-- The parts of a numeral, each a run of digits. -/
structure Numeral where
  /-- Whether it starts with a minus. -/
  negative : Bool
  /-- The digits before the point. -/
  whole : List Char
  /-- The digits after the point, when there is one. -/
  fraction : Option (List Char)
  /-- The sign and the digits of the exponent, when there is one. -/
  exponent : Option (Bool × List Char)
deriving DecidableEq

namespace Numeral

/-- The fraction at the front of a text, which has a digit if it has a point. -/
def splitFraction? : List Char → Option (Option (List Char) × List Char)
  | '.' :: cs =>
    let (digits, rest) := Text.spanDigits cs
    if digits.isEmpty then none else some (some digits, rest)
  | cs => some (none, cs)

/-- The exponent at the front of a text, which has a digit if it has an `e`. -/
def splitExponent? : List Char → Option (Option (Bool × List Char) × List Char)
  | [] => some (none, [])
  | c :: cs =>
    if c = 'e' ∨ c = 'E' then
      let (negative, cs) := Text.splitSign cs
      let (digits, rest) := Text.spanDigits cs
      if digits.isEmpty then none else some (some (negative, digits), rest)
    else some (none, c :: cs)

/-- The minus sign a numeral may start with. -/
def splitMinus : List Char → Bool × List Char
  | '-' :: cs => (true, cs)
  | cs => (false, cs)

/-- The digits before the point are a single zero, or do not start with one. -/
def plainWhole : List Char → Bool
  | [] => false
  | ['0'] => true
  | c :: _ => c != '0'

/-- The numeral that a whole text is. -/
def ofChars? (cs : List Char) : Option Numeral := do
  let (negative, cs) := splitMinus cs
  let (whole, cs) := Text.spanDigits cs
  if plainWhole whole then
    let (fraction, cs) ← splitFraction? cs
    let (exponent, cs) ← splitExponent? cs
    if cs.isEmpty then some ⟨negative, whole, fraction, exponent⟩ else none
  else none

/-- The largest unsigned 64-bit word. -/
def maxWord : Nat := 2 ^ 64 - 1

/-- Reads digits into a significand for as long as it stays within a word.  The
answer is the significand, and the digits that no longer fitted. -/
def accumulate (significand : Nat) : List Char → Nat × List Char
  | [] => (significand, [])
  | c :: cs =>
    let next := significand * 10 + Text.digitValue c
    if next ≤ maxWord then accumulate next cs else (significand, c :: cs)

/-- The magnitude divided by the power of ten `10 ^ (308 * steps)`, in steps of
`1e308`, stopping once nothing is left. -/
def divideBySteps? (m : Magnitude) : Nat → Option Magnitude
  | 0 => some m
  | steps + 1 =>
    if m.rank = 0 then some m
    else do divideBySteps? (← m.div? (← Magnitude.powerOfTen? 308)) steps

/-- A significand times a power of ten, with one rounding for the significand and
one for the power.  Exponents past `308` are out of range, unless the significand
is zero; those below `-308` are taken off in steps of `1e308`. -/
def scale? (significand : Nat) (exponent : Int) : Option Magnitude := do
  let m ← Magnitude.ofNat? significand
  if 0 ≤ exponent then
    if exponent ≤ 308 then m.mul? (← Magnitude.powerOfTen? exponent.toNat)
    else if m.rank = 0 then some m
    else none
  else
    let k := exponent.natAbs
    let steps := (k - 1) / 308
    (← divideBySteps? m steps).div? (← Magnitude.powerOfTen? (k - 308 * steps))

/-- The exponent that was written, and whether it is past the range of a 32-bit
integer. -/
def writtenExponent (n : Numeral) : Int × Bool :=
  match n.exponent with
  | none => (0, false)
  | some (negative, digits) =>
    let e := Text.natOfDigits digits
    (if negative then -(e : Int) else e, decide (2 ^ 31 ≤ e))

/-- The magnitude of a numeral read as a binary64 number.  Digits before the point
that no longer fit the significand each raise the exponent by one; digits after it
that fit lower it by one, and from the first that does not fit on they are dropped. -/
def magnitude? (n : Numeral) : Option Magnitude :=
  let (significand, dropped) := accumulate 0 n.whole
  let fraction := n.fraction.getD []
  let (significand, unread) := accumulate significand fraction
  let shift : Int := (dropped.length : Int) - (fraction.length - unread.length : Nat)
  let (written, excessive) := n.writtenExponent
  if excessive then
    if significand = 0 ∨ written < 0 then some .zero else none
  else scale? significand (shift + written)

/-- The value of a numeral, unless it is past the largest finite number.  A zero
with a minus sign is a binary64 number also when it is written whole. -/
def value? (n : Numeral) : Option Number :=
  let float? := n.magnitude?.map fun m => Number.float ⟨n.negative, m⟩
  if n.fraction.isNone && n.exponent.isNone then
    let w := Text.natOfDigits n.whole
    if n.negative && w == 0 then float?
    else (Number.ofInt? (if n.negative then -(w : Int) else w)).orElse fun _ => float?
  else float?

end Numeral

namespace Number

/-- The number that a whole text spells. -/
def ofChars? (cs : List Char) : Option Number := (Numeral.ofChars? cs).bind Numeral.value?

/-- The numeral a number is written as. -/
def chars : Number → List Char
  | .integer n _ =>
    let digits := Text.digitsOfNat n.natAbs
    if n < 0 then '-' :: digits else digits
  | .float x => x.chars

/-- The text of a number. -/
def text (n : Number) : String := String.ofList n.chars

end Number

end Ocpp

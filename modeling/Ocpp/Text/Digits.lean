import Ocpp.Text.Blank

/-!
# Runs of decimal digits

Reading the digits at the front of a text, the number they spell, and the signed
integer that a whole text spells.

## Main definitions

* `spanDigits cs` — the digits `cs` starts with, and the rest.
* `natOfDigits ds` — the natural number spelled by the digits `ds`.
* `int64? s` — the 64-bit integer the trimmed text `s` spells.
-/

namespace Ocpp

namespace Text

/-- The value of a decimal digit. -/
def digitValue (c : Char) : Nat := c.toNat - '0'.toNat

/-- The natural number spelled by a run of decimal digits, most significant first. -/
def natOfDigits (ds : List Char) : Nat := ds.foldl (fun n c => 10 * n + digitValue c) 0

/-- The decimal digits at the front of a text, and what follows them. -/
def spanDigits (cs : List Char) : List Char × List Char :=
  (cs.takeWhile Char.isDigit, cs.dropWhile Char.isDigit)

/-- The decimal digits of a natural number, most significant first. -/
def digitsOfNat (n : Nat) : List Char := Nat.toDigits 10 n

/-- A natural number written with at least `width` digits. -/
def padded (width n : Nat) : List Char :=
  let ds := digitsOfNat n
  List.replicate (width - ds.length) '0' ++ ds

/-- An optional single sign at the front of a text: whether it is a minus, and
what follows it. -/
def splitSign : List Char → Bool × List Char
  | '-' :: cs => (true, cs)
  | '+' :: cs => (false, cs)
  | cs => (false, cs)

/-- The 64-bit integer of the same value, when there is one. -/
def int64OfInt? (n : Int) : Option Int64 :=
  if -2 ^ 63 ≤ n ∧ n < 2 ^ 63 then some (Int64.ofInt n) else none

/-- The 64-bit integer spelled by a whole run of characters: an optional sign, then
digits and nothing else. -/
def int64OfChars? (cs : List Char) : Option Int64 :=
  let (negative, ds) := splitSign cs
  if ds.isEmpty || !ds.all Char.isDigit then none
  else int64OfInt? (if negative then -(natOfDigits ds : Int) else natOfDigits ds)

/-- The 64-bit integer spelled by a text, blanks around it aside. -/
def int64? (s : String) : Option Int64 := int64OfChars? (trimChars s.toList)

end Text

end Ocpp

import Ocpp.Json.Token

/-!
# Message ids

Fresh ids for outgoing Calls: random identifiers of 36 characters, the most that
the protocol allows.

## Main definitions

* `MessageId.ofEntropy bits` — the id made of 128 random bits.
* `MessageId.fresh g` — an id drawn from a random generator.
-/

namespace Ocpp

namespace MessageId

/-- The digits of the id by position.  The digit at place 12 tells that the id is a
random one, and the two high bits of the digit at place 16 tell its layout. -/
def digitAt (bits i : Nat) : Nat :=
  let digit := bits / 16 ^ (31 - i) % 16
  if i = 12 then 4 else if i = 16 then 8 + digit % 4 else digit

/-- Hexadecimal digits of the id from one place up to another. -/
def group (bits first count : Nat) : List Char :=
  (List.range count).map fun i => Quoted.hexDigit (digitAt bits (first + i))

/-- The id made of 128 random bits: 32 hexadecimal digits in five groups. -/
def ofEntropy (bits : Nat) : String :=
  String.ofList (group bits 0 8 ++ '-' :: (group bits 8 4 ++ '-' :: (group bits 12 4 ++
    '-' :: (group bits 16 4 ++ '-' :: group bits 20 12))))

/-- An id drawn from a random generator, and the generator for the next one. -/
def fresh {γ : Type} [RandomGen γ] (g : γ) : String × γ :=
  let (bits, g) := randNat g 0 (2 ^ 128 - 1)
  (ofEntropy bits, g)

end MessageId

end Ocpp

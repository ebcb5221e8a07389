import Ocpp.Keyed
import Ocpp.Number.Binary64

/-!
# JSON values

A JSON value with the numbers a 64-bit reader tells apart: whole numbers that fit
a signed or an unsigned 64-bit word, and finite binary64 numbers.  The members of
an object are kept in key order.

## Main definitions

* `Number`, `Json` — numbers and values.
* `Json.Kind`, `Json.kind` — the seven kinds a value is told apart by.
* `Json.sameValue` — equality up to the sign of zero.
* `Json.sorted` — the value with the members of its objects in key order.
-/

namespace Ocpp

/-- A JSON number: a whole number that fits a 64-bit word, or a binary64 number.
The two are never equal, also where they denote the same value. -/
inductive Number where
  /-- A whole number in the signed or the unsigned 64-bit range. -/
  | integer (n : Int) (fits : -2 ^ 63 ≤ n ∧ n < 2 ^ 64)
  /-- A finite binary64 number. -/
  | float (x : Binary64)
deriving DecidableEq

namespace Number

/-- The whole number `n`, when it fits a 64-bit word. -/
def ofInt? (n : Int) : Option Number :=
  if h : -2 ^ 63 ≤ n ∧ n < 2 ^ 64 then some (.integer n h) else none

/-- A 64-bit integer as a number. -/
def ofInt64 (n : Int64) : Number :=
  .integer n.toInt ⟨n.le_toInt, Int.lt_trans n.toInt_lt (by decide)⟩

/-- Whether two numbers are of one form and have the same value. -/
def sameValue : Number → Number → Bool
  | .integer m _, .integer n _ => m == n
  | .float x, .float y => x.sameValue y
  | _, _ => false

/-- The value as a binary64 number, rounded where it needs to be. -/
def toBinary64? : Number → Option Binary64
  | .integer n _ => Binary64.ofInt? n
  | .float x => some x

end Number

/-- A JSON value. -/
inductive Json where
  | null
  | bool (b : Bool)
  | number (n : Number)
  | string (s : String)
  | array (items : List Json)
  | object (members : List (String × Json))
deriving Inhabited

/-- The members of a JSON object. -/
abbrev Members := Keyed Json

namespace Json

/-- The kinds of JSON values, whole numbers apart from the others. -/
inductive Kind where
  | null
  | boolean
  | integer
  | number
  | string
  | array
  | object
deriving DecidableEq

/-- The word a kind goes by. -/
def Kind.name : Kind → String
  | .null => "null"
  | .boolean => "boolean"
  | .integer => "integer"
  | .number => "number"
  | .string => "string"
  | .array => "array"
  | .object => "object"

/-- The kind of a value. -/
def kind : Json → Kind
  | .null => .null
  | .bool _ => .boolean
  | .number (.integer ..) => .integer
  | .number (.float _) => .number
  | .string _ => .string
  | .array _ => .array
  | .object _ => .object

/-- The natural number `n`, for the few small ones the protocol writes itself. -/
def ofNat (n : Nat) (h : n < 2 ^ 64 := by decide) : Json :=
  .number (.integer n ⟨by omega, by omega⟩)

/-- A 64-bit integer as a value. -/
def ofInt64 (n : Int64) : Json := .number (.ofInt64 n)

/-- A member whose value may be left out. -/
def member? (key : String) (v : Option Json) : List (String × Json) :=
  match v with
  | some v => [(key, v)]
  | none => []

/-- A value, or null in its place. -/
def orNull (v : Option Json) : Json := v.getD .null

/-- Whether a value is null. -/
def isNull : Json → Bool
  | .null => true
  | _ => false

mutual

/-- Whether two values are equal, the two zeros of binary64 taken as one. -/
def sameValue : Json → Json → Bool
  | .null, .null => true
  | .bool a, .bool b => a == b
  | .number a, .number b => a.sameValue b
  | .string a, .string b => a == b
  | .array a, .array b => sameItems a b
  | .object a, .object b => sameMembers a b
  | _, _ => false

/-- Whether two lists of values are equal item by item. -/
def sameItems : List Json → List Json → Bool
  | [], [] => true
  | a :: as, b :: bs => sameValue a b && sameItems as bs
  | _, _ => false

/-- Whether two lists of members are equal member by member. -/
def sameMembers : List (String × Json) → List (String × Json) → Bool
  | [], [] => true
  | (j, a) :: as, (k, b) :: bs => j == k && sameValue a b && sameMembers as bs
  | _, _ => false

end

/-! ### Key order -/

mutual

/-- The value with the members of every object in key order, of several members with
one key the last. -/
def sorted : Json → Json
  | .array items => .array (sortedItems items)
  | .object members => .object (Keyed.ofList (sortedMembers members))
  | v => v

/-- The items of an array, each with its members in key order. -/
def sortedItems : List Json → List Json
  | [] => []
  | v :: items => sorted v :: sortedItems items

/-- The members of an object, in the order they have, each value with its own members
in key order. -/
def sortedMembers : List (String × Json) → List (String × Json)
  | [] => []
  | (k, v) :: members => (k, sorted v) :: sortedMembers members

end

end Json

end Ocpp

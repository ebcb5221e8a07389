import Ocpp.Json.Token
import Ocpp.Version
import Ocpp.Vocabulary

/-!
# Typed views of payload fields

The types a field of a payload can be read as.  A view either takes a value and
shows what it read, or declines it.

## Main definitions

* `FieldView` — a type to read a field as.
* `FieldView.read?` — what a value reads as.
* `Vocabulary.ofJson?`, `Version.ofJson?` — words and generations in JSON.
* `Vocabulary.ofText?` — words in JSON text.
-/

namespace Ocpp

/-- The word of a vocabulary that a value names: the word as a string, or an object
whose only member has the word as its key and null as its value. -/
def Vocabulary.ofJson? (v : Vocabulary) : Json → Option String
  | .string s => if v.accepts s then some s else none
  | .object [(k, .null)] => if v.accepts k then some k else none
  | _ => none

/-- The word of a vocabulary that a row of tokens names, in one of the two forms that a
value has. -/
def Vocabulary.ofTokens? (v : Vocabulary) : List Token → Option String
  | [.string s] => if v.accepts s then some s else none
  | [.mark '{', .string k, .mark ':', .null, .mark '}'] => if v.accepts k then some k else none
  | _ => none

/-- The word of a vocabulary that a JSON text names.  An object that repeats its one key
is a value with one member, but no text of a word. -/
def Vocabulary.ofText? (v : Vocabulary) (text : String) : Option String :=
  (Token.scan? text.toList).bind v.ofTokens?

/-- The generation that a value names. -/
def Version.ofJson? : Json → Option Version
  | .string s => Version.ofProtocol? s
  | _ => none

/-- A type to read a field as. -/
inductive FieldView where
  | string
  /-- A whole number between two bounds. -/
  | integer (least greatest : Int)
  /-- A number, taken as binary64. -/
  | float
  | boolean
  /-- A string, or nothing. -/
  | optionalString
  /-- A list of signed 64-bit integers. -/
  | integers
  /-- A map of strings. -/
  | strings
  | anything
  /-- A generation of the protocol. -/
  | version
  /-- A word of a vocabulary. -/
  | word (vocabulary : Vocabulary)

/-- What was read of a field. -/
inductive FieldReading where
  /-- A value. -/
  | value (v : Json)
  /-- A word of a vocabulary. -/
  | word (w : String)

namespace FieldView

/-- The signed 64-bit integers. -/
def int64 : FieldView := .integer (-2 ^ 63) (2 ^ 63 - 1)

/-- The unsigned 64-bit integers. -/
def nat64 : FieldView := .integer 0 (2 ^ 64 - 1)

/-- The signed bytes. -/
def int8 : FieldView := .integer (-128) 127

/-- The bytes. -/
def nat8 : FieldView := .integer 0 255

/-- Whether a value is a whole number between two bounds. -/
def isWithin (least greatest : Int) : Json → Bool
  | .number (.integer n _) => least ≤ n && n ≤ greatest
  | _ => false

/-- Whether a value is a string. -/
def isString : Json → Bool
  | .string _ => true
  | _ => false

/-- What a value reads as. -/
def read? : FieldView → Json → Option FieldReading
  | .string, .string s => some (.value (.string s))
  | .integer least greatest, v => if isWithin least greatest v then some (.value v) else none
  | .float, .number n => n.toBinary64?.map fun x => .value (.number (.float x))
  | .boolean, .bool b => some (.value (.bool b))
  | .optionalString, .null => some (.value .null)
  | .optionalString, .string s => some (.value (.string s))
  | .integers, .array items =>
    if items.all (isWithin (-2 ^ 63) (2 ^ 63 - 1)) then some (.value (.array items)) else none
  | .strings, .object members =>
    if members.all (fun m => isString m.2) then some (.value (.object members)) else none
  | .anything, v => some (.value v)
  | .version, v => (Version.ofJson? v).map fun w => .value (.string w.protocol)
  | .word vocabulary, v => (vocabulary.ofJson? v).map .word
  | _, _ => none

end FieldView

end Ocpp

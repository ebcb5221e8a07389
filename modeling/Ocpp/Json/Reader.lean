import Ocpp.Json.Token

/-!
# Reading JSON

The value of a JSON text.  The tokens are taken one by one by a machine that keeps
the containers still open on a stack, at most `maxDepth` of them.

## Main definitions

* `Json.Container` — an array or object being read.
* `Json.Reading` — what the machine has read, and what may come next.
* `Json.read?` — the value of a text, if it is well formed.
-/

namespace Ocpp

namespace Json

/-- How deep arrays and objects may be nested. -/
def maxDepth : Nat := 127

/-- A container that is being read. -/
inductive Container where
  /-- An array, with the items read so far in reverse. -/
  | array (read : List Json)
  /-- An object, with the members read so far and the key whose value comes next. -/
  | object (read : Members) (key : String)

/-- What a reading machine waits for, with the containers open around it. -/
inductive Reading where
  /-- A value. -/
  | value (around : List Container)
  /-- The first item of an array, or its end. -/
  | firstItem (around : List Container)
  /-- The first key of an object, or its end. -/
  | firstKey (around : List Container)
  /-- A further key of an object. -/
  | key (read : Members) (around : List Container)
  /-- The colon after a key. -/
  | colon (read : Members) (key : String) (around : List Container)
  /-- What follows a value: a comma, the end of a container, or the end of the text. -/
  | after (v : Json) (around : List Container)

namespace Reading

/-- The first token of a value. -/
def startValue? (around : List Container) : Token → Option Reading
  | .null => some (.after .null around)
  | .bool b => some (.after (.bool b) around)
  | .number n => some (.after (.number n) around)
  | .string s => some (.after (.string s) around)
  | .mark c =>
    if around.length < maxDepth then
      if c = '[' then some (.firstItem around)
      else if c = '{' then some (.firstKey around)
      else none
    else none

/-- The token after a value inside a container. -/
def afterValue? (v : Json) (around : List Container) : Token → Option Reading
  | .mark c =>
    match around with
    | .array read :: outer =>
      if c = ',' then some (.value (.array (v :: read) :: outer))
      else if c = ']' then some (.after (.array (v :: read).reverse) outer)
      else none
    | .object read k :: outer =>
      if c = ',' then some (.key (Keyed.insert read k v) outer)
      else if c = '}' then some (.after (.object (Keyed.insert read k v)) outer)
      else none
    | [] => none
  | _ => none

/-- One token. -/
def step? : Reading → Token → Option Reading
  | .value around, t => startValue? around t
  | .firstItem around, t =>
    if t = .mark ']' then some (.after (.array []) around)
    else startValue? (.array [] :: around) t
  | .firstKey around, .mark c => if c = '}' then some (.after (.object []) around) else none
  | .firstKey around, .string k => some (.colon [] k around)
  | .key read around, .string k => some (.colon read k around)
  | .colon read k around, .mark c =>
    if c = ':' then some (.value (.object read k :: around)) else none
  | .after v around, t => afterValue? v around t
  | _, _ => none

/-- All tokens of a text. -/
def run? (state : Reading) : List Token → Option Reading
  | [] => some state
  | t :: ts => (step? state t).bind fun next => run? next ts

/-- The value read, when the text may end here. -/
def result? : Reading → Option Json
  | .after v [] => some v
  | _ => none

end Reading

/-- The value of a row of tokens. -/
def ofTokens? (ts : List Token) : Option Json :=
  (Reading.run? (.value []) ts).bind Reading.result?

/-- The value of the characters of a JSON text. -/
def readChars? (cs : List Char) : Option Json := (Token.scan? cs).bind ofTokens?

/-- The value of a JSON text. -/
def read? (text : String) : Option Json := readChars? text.toList

end Json

end Ocpp

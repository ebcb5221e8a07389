import Ocpp.Calendar.Timestamp
import Ocpp.Json.Token
import Ocpp.Toml.Basic

/-!
# Reading TOML

The statements of a TOML text.  Every reader takes the characters that are left and
gives what it has read with the rest, or nothing if the text is malformed.  Readers
that go over a stretch of unknown length are given a number of steps, which the length
of the whole text provides for.

## Main definitions

* `Toml.value?` — a value.
* `Toml.statements?` — the statements of a text.
* `Toml.read?` — the root table of a text.
-/

namespace Ocpp

namespace Toml

/-! ### Blanks, comments and line ends -/

/-- Drops the spaces and tabs at the front. -/
def skipBlanks (cs : List Char) : List Char := cs.dropWhile fun c => c == ' ' || c == '\t'

/-- The characters that may stand in comments and in quotes: the tab, and all but the
control characters. -/
def isTextChar (c : Char) : Bool := c == '\t' || (' ' ≤ c && c != '\x7f')

/-- A line break at the front. -/
def newline? : List Char → Option (List Char)
  | '\n' :: cs => some cs
  | '\r' :: '\n' :: cs => some cs
  | _ => none

/-- Drops a comment at the front, up to the end of its line. -/
def skipComment : List Char → List Char
  | '#' :: cs => cs.dropWhile isTextChar
  | cs => cs

/-- The end of a line: blanks, a comment, and a line break or the end of the text. -/
def lineEnd? (cs : List Char) : Option (List Char) :=
  match skipComment (skipBlanks cs) with
  | [] => some []
  | rest => newline? rest

/-- Drops blanks, comments and line breaks, as they may stand between the items of an
array. -/
def skipLines : Nat → List Char → List Char
  | 0, cs => cs
  | steps + 1, cs =>
    let rest := skipComment (skipBlanks cs)
    match newline? rest with
    | some rest => skipLines steps rest
    | none => rest

/-! ### Strings -/

/-- The character with a code point, if there is one. -/
def charOfCode? (n : Nat) : Option Char :=
  if n < 0xD800 ∨ (0xE000 ≤ n ∧ n < 0x110000) then some (Char.ofNat n) else none

/-- The number spelled by exactly `count` hexadecimal digits at the front. -/
def hexNumber? (count : Nat) (cs : List Char) : Option (Nat × List Char) := do
  let digits := cs.take count
  if digits.length = count then
    let values ← digits.mapM Quoted.hexValue?
    some (values.foldl (fun n d => 16 * n + d) 0, cs.drop count)
  else none

/-- The escape after a backslash. -/
def escape? : List Char → Option (Char × List Char)
  | [] => none
  | c :: cs =>
    if c = 'b' then some ('\x08', cs)
    else if c = 't' then some ('\t', cs)
    else if c = 'n' then some ('\n', cs)
    else if c = 'f' then some ('\x0c', cs)
    else if c = 'r' then some ('\r', cs)
    else if c = '"' ∨ c = '\\' then some (c, cs)
    else if c = 'u' ∨ c = 'U' then do
      let (n, cs) ← hexNumber? (if c = 'u' then 4 else 8) cs
      some (← charOfCode? n, cs)
    else none

/-- The rest of a string on one line, after its opening quotation mark. -/
def basicString? : Nat → List Char → Option (List Char × List Char)
  | 0, _ | _, [] => none
  | steps + 1, c :: cs =>
    if c = '"' then some ([], cs)
    else if c = '\\' then do
      let (e, cs) ← escape? cs
      let (s, cs) ← basicString? steps cs
      some (e :: s, cs)
    else if isTextChar c then (basicString? steps cs).map fun (s, cs) => (c :: s, cs)
    else none

/-- The rest of a literal string on one line, after its opening apostrophe. -/
def literalString? : List Char → Option (List Char × List Char)
  | [] => none
  | c :: cs =>
    if c = '\'' then some ([], cs)
    else if isTextChar c then (literalString? cs).map fun (s, cs) => (c :: s, cs)
    else none

/-- The end of a string of several lines: three quotes close it, and up to two more
before them belong to it. -/
def closing? (quote : Char) (cs : List Char) : Option (List Char × List Char) :=
  let run := (cs.takeWhile (· == quote)).length
  if 3 ≤ run then
    let extra := min (run - 3) 2
    some (List.replicate extra quote, cs.drop (extra + 3))
  else none

/-- Drops blanks and line breaks after a backslash at the end of a line. -/
def skipContinuation : Nat → List Char → List Char
  | 0, cs => cs
  | steps + 1, cs =>
    match newline? (skipBlanks cs) with
    | some rest => skipContinuation steps rest
    | none => skipBlanks cs

/-- The rest of a string of several lines, after its opening quotation marks.  Line
breaks count as line feeds. -/
def multilineString? (quote : Char) (escapes : Bool) :
    Nat → List Char → Option (List Char × List Char)
  | 0, _ | _, [] => none
  | steps + 1, c :: cs =>
    match closing? quote (c :: cs), newline? (c :: cs) with
    | some done, _ => some done
    | none, some rest =>
      (multilineString? quote escapes steps rest).map fun (s, cs) => ('\n' :: s, cs)
    | none, none =>
      if c = '\\' ∧ escapes = true then
        match newline? (skipBlanks cs) with
        | some rest => multilineString? quote escapes steps (skipContinuation steps rest)
        | none => do
          let (e, cs) ← escape? cs
          let (s, cs) ← multilineString? quote escapes steps cs
          some (e :: s, cs)
      else if isTextChar c then
        (multilineString? quote escapes steps cs).map fun (s, cs) => (c :: s, cs)
      else none

/-- The text after the opening quotation marks of a string of several lines: a line
break right after them does not count. -/
def skipFirstNewline (cs : List Char) : List Char := (newline? cs).getD cs

/-! ### Keys -/

/-- The characters of a key without quotes. -/
def isKeyChar (c : Char) : Bool := c.isAlphanum || c == '_' || c == '-'

/-- A single key. -/
def simpleKey? (steps : Nat) (cs : List Char) : Option (String × List Char) :=
  match cs with
  | '"' :: rest => (basicString? steps rest).map fun (s, cs) => (String.ofList s, cs)
  | '\'' :: rest => (literalString? rest).map fun (s, cs) => (String.ofList s, cs)
  | _ =>
    let word := cs.takeWhile isKeyChar
    if word.isEmpty then none else some (String.ofList word, cs.drop word.length)

/-- A key of one or several parts with dots between them: the parts before the last,
the last, and the rest of the text without blanks at its front. -/
def dottedKey? : Nat → List Char → Option (List String × String × List Char)
  | 0, _ => none
  | steps + 1, cs => do
    let (k, cs) ← simpleKey? steps (skipBlanks cs)
    match skipBlanks cs with
    | '.' :: cs => do
      let (path, last, cs) ← dottedKey? steps cs
      some (k :: path, last, cs)
    | cs => some ([], k, cs)

/-- How deep arrays and tables in braces may be nested, and how many parts a key may
have. -/
def maxNesting : Nat := 79

/-- A key with no more parts than are allowed. -/
def key? (steps : Nat) (cs : List Char) : Option (List String × String × List Char) :=
  (dottedKey? steps cs).filter fun (path, _, _) => path.length + 1 ≤ maxNesting

/-! ### Scalars -/

/-- The digits of a number with single underscores allowed between two of them. -/
def groupedDigits? (isDigit : Char → Bool) : List Char → Option (List Char)
  | [] => none
  | [c] => if isDigit c then some [c] else none
  | c :: '_' :: d :: cs =>
    if isDigit c then (groupedDigits? isDigit (d :: cs)).map (c :: ·) else none
  | c :: cs => if isDigit c then (groupedDigits? isDigit cs).map (c :: ·) else none

/-- The number spelled by digits of a base. -/
def numberInBase (base : Nat) (ds : List Char) : Nat :=
  ds.foldl (fun n c => base * n + (Quoted.hexValue? c).getD 0) 0

/-- Whether digits in groups spell a number of a base that fits 63 bits. -/
def isBaseNumber (base : Nat) (cs : List Char) : Bool :=
  match groupedDigits? (fun c => (Quoted.hexValue? c).any (· < base)) cs with
  | some ds => decide (numberInBase base ds < 2 ^ 63)
  | none => false

/-- Whether a run of characters is a whole number that fits 64 bits. -/
def isInteger (word : List Char) : Bool :=
  match word with
  | '0' :: 'x' :: cs => isBaseNumber 16 cs
  | '0' :: 'o' :: cs => isBaseNumber 8 cs
  | '0' :: 'b' :: cs => isBaseNumber 2 cs
  | _ =>
    let (negative, body) := Text.splitSign word
    match groupedDigits? Char.isDigit body with
    | some ds => Numeral.plainWhole ds &&
        (Text.int64OfChars? (if negative then '-' :: ds else ds)).isSome
    | none => false

/-- The numeral without its underscores, if each of them stands between two digits. -/
def ungroup? : Option Char → List Char → Option (List Char)
  | _, [] => some []
  | before, '_' :: d :: cs =>
    if before.any Char.isDigit && d.isDigit then (ungroup? (some d) cs).map (d :: ·) else none
  | _, c :: cs => if c = '_' then none else (ungroup? (some c) cs).map (c :: ·)

/-- Whether a numeral is in the range of binary64: the nearest magnitude is finite.
Numbers of 309 digits before the point are the only ones on both sides of the limit. -/
def isInRange (n : Numeral) : Bool :=
  let digits := n.whole ++ n.fraction.getD []
  let significant := digits.dropWhile (· == '0')
  let point := (significant.length : Int) - (n.fraction.getD []).length + n.writtenExponent.1
  if significant.isEmpty || point < 309 then true
  else if 309 < point then false
  else
    (Magnitude.nearest? (Text.natOfDigits significant * 10 ^ (309 - significant.length))
      (10 ^ (significant.length - 309))).isSome

/-- Whether a run of characters is a number with a fraction or an exponent, or one of
the special numbers.  Only a number above zero can be too large. -/
def isFloat (word : List Char) : Bool :=
  let (negative, body) := Text.splitSign word
  if body = ['i', 'n', 'f'] ∨ body = ['n', 'a', 'n'] then true
  else
    match (ungroup? none body).bind Numeral.ofChars? with
    | some n =>
      body.head?.any Char.isDigit && (n.fraction.isSome || n.exponent.isSome) &&
        (negative || isInRange n)
    | none => false

/-- A date at the front of a text, as `YYYY-MM-DD`: the rest. -/
def date? (cs : List Char) : Option (List Char) := do
  let (year, cs) ← Timestamp.fixedDigits? 4 cs
  let cs ← Timestamp.expect? '-' cs
  let (month, cs) ← Timestamp.fixedDigits? 2 cs
  let cs ← Timestamp.expect? '-' cs
  let (day, cs) ← Timestamp.fixedDigits? 2 cs
  let _ ← Date.ofFields? year month day
  some cs

/-- A time of day at the front of a text, as `HH:MM:SS` with a fraction if there is one:
the rest. -/
def timeOfDay? (cs : List Char) : Option (List Char) := do
  let (hour, cs) ← Timestamp.fixedDigits? 2 cs
  let cs ← Timestamp.expect? ':' cs
  let (minute, cs) ← Timestamp.fixedDigits? 2 cs
  let cs ← Timestamp.expect? ':' cs
  let (second, cs) ← Timestamp.fixedDigits? 2 cs
  let (_, cs) ← Timestamp.fraction? cs
  if Timestamp.TimeValid hour minute second then some cs else none

/-- An offset from UTC at the front of a text, if there is one: the rest. -/
def offset? : List Char → Option (List Char)
  | [] => some []
  | c :: cs =>
    if c = 'Z' ∨ c = 'z' then some cs
    else if c = '+' ∨ c = '-' then do
      let (hours, cs) ← Timestamp.fixedDigits? 2 cs
      let cs ← Timestamp.expect? ':' cs
      let (minutes, cs) ← Timestamp.fixedDigits? 2 cs
      if hours < 24 ∧ minutes < 60 then some cs else none
    else some (c :: cs)

/-- A time of day after the mark between date and time: the rest. -/
def markedTime? : List Char → Option (List Char)
  | [] => none
  | c :: cs => if Timestamp.isDateTimeMark c then timeOfDay? cs else none

/-- A date, a time of day, or a date and a time with an offset if there is one: the rest
of the text. -/
def moment? (cs : List Char) : Option (List Char) :=
  match date? cs with
  | none => timeOfDay? cs
  | some rest =>
    match markedTime? rest with
    | none => some rest
    | some rest => offset? rest

/-- The characters of scalars without quotes. -/
def isScalarChar (c : Char) : Bool :=
  c.isAlphanum || c == '_' || c == '+' || c == '-' || c == '.'

/-- A scalar without quotes. -/
def scalar? (cs : List Char) : Option (Item × List Char) :=
  match moment? cs with
  | some rest => some (.moment, rest)
  | none =>
    let word := cs.takeWhile isScalarChar
    let rest := cs.drop word.length
    if word = ['t', 'r', 'u', 'e'] then some (.boolean true, rest)
    else if word = ['f', 'a', 'l', 's', 'e'] then some (.boolean false, rest)
    else if isInteger word then some (.integer, rest)
    else if isFloat word then some (.float, rest)
    else none

/-- A string in quotes. -/
def quoted? (steps : Nat) : List Char → Option (String × List Char)
  | '"' :: '"' :: '"' :: cs =>
    (multilineString? '"' true steps (skipFirstNewline cs)).map
      fun (s, cs) => (String.ofList s, cs)
  | '"' :: cs => (basicString? steps cs).map fun (s, cs) => (String.ofList s, cs)
  | '\'' :: '\'' :: '\'' :: cs =>
    (multilineString? '\'' false steps (skipFirstNewline cs)).map
      fun (s, cs) => (String.ofList s, cs)
  | '\'' :: cs => (literalString? cs).map fun (s, cs) => (String.ofList s, cs)
  | _ => none

/-! ### Values -/

mutual

/-- A value.  `room` is how many levels of arrays and braces may still be opened. -/
def value? : Nat → Nat → List Char → Option (Item × List Char)
  | 0, _, _ => none
  | steps + 1, room, cs =>
    match cs with
    | '[' :: rest =>
      if room = 0 then none
      else (arrayItems? steps (room - 1) rest).map fun (items, cs) => (.array items, cs)
    | '{' :: rest =>
      if room = 0 then none
      else
        match skipBlanks rest with
        | '}' :: cs => some (.table .inline [], cs)
        | rest => do
          let (pairs, cs) ← inlinePairs? steps (room - 1) rest
          some (.table .inline (← inlineEntries? pairs), cs)
    | _ =>
      match quoted? steps cs with
      | some (s, cs) => some (.string s, cs)
      | none => scalar? cs

/-- The items of an array up to its closing bracket.  A comma may follow the last. -/
def arrayItems? : Nat → Nat → List Char → Option (List Item × List Char)
  | 0, _, _ => none
  | steps + 1, room, cs =>
    match skipLines steps cs with
    | ']' :: rest => some ([], rest)
    | rest => do
      let (item, rest) ← value? steps room rest
      match skipLines steps rest with
      | ']' :: rest => some ([item], rest)
      | ',' :: rest => do
        let (items, rest) ← arrayItems? steps room rest
        some (item :: items, rest)
      | _ => none

/-- The pairs of a table in braces, up to the closing one. -/
def inlinePairs? :
    Nat → Nat → List Char → Option (List (List String × String × Item) × List Char)
  | 0, _, _ => none
  | steps + 1, room, cs => do
    let (path, key, rest) ← key? steps cs
    match rest with
    | '=' :: rest => do
      let (item, rest) ← value? steps room (skipBlanks rest)
      match skipBlanks rest with
      | '}' :: rest => some ([(path, key, item)], rest)
      | ',' :: rest => do
        let (pairs, rest) ← inlinePairs? steps room rest
        some ((path, key, item) :: pairs, rest)
      | _ => none
    | _ => none

end

/-! ### Statements -/

/-- A header after its opening bracket. -/
def header? (steps : Nat) (cs : List Char) : Option (Statement × List Char) := do
  let (path, key, rest) ← key? steps cs
  match rest with
  | ']' :: rest => some (.header path key, ← lineEnd? rest)
  | _ => none

/-- A repeated header after its opening brackets. -/
def arrayHeader? (steps : Nat) (cs : List Char) : Option (Statement × List Char) := do
  let (path, key, rest) ← key? steps cs
  match rest with
  | ']' :: ']' :: rest => some (.arrayHeader path key, ← lineEnd? rest)
  | _ => none

/-- A key and its value. -/
def assignment? (steps : Nat) (cs : List Char) : Option (Statement × List Char) := do
  let (path, key, rest) ← key? steps cs
  match rest with
  | '=' :: rest => do
    let (item, rest) ← value? steps maxNesting (skipBlanks rest)
    some (.assign path key item, ← lineEnd? rest)
  | _ => none

/-- A statement at the front of a text that starts with neither blanks nor a line
break. -/
def statement? (steps : Nat) : List Char → Option (Statement × List Char)
  | '[' :: '[' :: cs => arrayHeader? steps cs
  | '[' :: cs => header? steps cs
  | cs => assignment? steps cs

/-- The statements of a text, line by line. -/
def statementsFrom? : Nat → List Char → Option (List Statement)
  | _, [] => some []
  | 0, _ => none
  | steps + 1, cs =>
    match lineEnd? cs with
    | some rest => statementsFrom? steps rest
    | none => do
      let (s, rest) ← statement? steps (skipBlanks cs)
      (statementsFrom? steps rest).map (s :: ·)

/-- The text without the byte order mark that may stand at its front. -/
def skipMark : List Char → List Char
  | '\ufeff' :: cs => cs
  | cs => cs

/-- The statements of a text.  No reader takes more than two steps a character. -/
def statements? (cs : List Char) : Option (List Statement) :=
  statementsFrom? (2 * cs.length + 2) (skipMark cs)

/-- The root table of a text. -/
def read? (text : String) : Option Entries := (statements? text.toList).bind build?

end Toml

end Ocpp

import Ocpp.Json.Numeral

/-!
# JSON tokens

A JSON text is a row of tokens with blanks between them.  Scanning runs in two
stages: the characters are cut into lexemes by an automaton that takes them one by
one, and every lexeme is then read as a token.

## Main definitions

* `Token` — a punctuation mark, a literal, a number or a string; `Token.chars`
  writes one.
* `Lexeme`, `Lexeme.scan?` — the lexemes of a text.
* `Token.scan?` — the tokens of a text.
-/

namespace Ocpp

/-- A token of JSON text. -/
inductive Token where
  /-- One of the six punctuation marks. -/
  | mark (c : Char)
  | null
  | bool (b : Bool)
  | number (n : Number)
  | string (s : String)
deriving DecidableEq

/-- The six punctuation marks. -/
def isMark (c : Char) : Bool :=
  c == '[' || c == ']' || c == '{' || c == '}' || c == ',' || c == ':'

/-- The four characters that may stand between tokens. -/
def isJsonBlank (c : Char) : Bool := c == ' ' || c == '\n' || c == '\t' || c == '\r'

/-- The characters of numerals and literals. -/
def isBare (c : Char) : Bool := c.isAlphanum || c == '+' || c == '-' || c == '.'

/-! ### Escapes in strings -/

namespace Quoted

/-- A lower-case hexadecimal digit. -/
def hexDigit (n : Nat) : Char :=
  if n < 10 then Char.ofNat (n + '0'.toNat) else Char.ofNat (n - 10 + 'a'.toNat)

/-- The value of a hexadecimal digit, of either case. -/
def hexValue? (c : Char) : Option Nat :=
  if '0' ≤ c ∧ c ≤ '9' then some (c.toNat - '0'.toNat)
  else if 'a' ≤ c ∧ c ≤ 'f' then some (c.toNat - 'a'.toNat + 10)
  else if 'A' ≤ c ∧ c ≤ 'F' then some (c.toNat - 'A'.toNat + 10)
  else none

/-- How a character is written inside a string: quotes, backslashes and control
characters are escaped, all else stands for itself. -/
def escape (c : Char) : List Char :=
  if c = '"' then ['\\', '"']
  else if c = '\\' then ['\\', '\\']
  else if c = '\x08' then ['\\', 'b']
  else if c = '\x0c' then ['\\', 'f']
  else if c = '\n' then ['\\', 'n']
  else if c = '\r' then ['\\', 'r']
  else if c = '\t' then ['\\', 't']
  else if c < ' ' then ['\\', 'u', '0', '0', hexDigit (c.toNat / 16), hexDigit (c.toNat % 16)]
  else [c]

/-- A string between its quotation marks. -/
def chars (s : String) : List Char := '"' :: (s.toList.flatMap escape ++ ['"'])

/-- What one escape or one character of a string stands for: a character, or a
16-bit code unit. -/
inductive Piece where
  | char (c : Char)
  | unit (n : Nat)
deriving DecidableEq

/-- The character of a two-character escape. -/
def shortEscape? (c : Char) : Option Char :=
  if c = '"' ∨ c = '\\' ∨ c = '/' then some c
  else if c = 'b' then some '\x08'
  else if c = 'f' then some '\x0c'
  else if c = 'n' then some '\n'
  else if c = 'r' then some '\r'
  else if c = 't' then some '\t'
  else none

/-- The code unit of four hexadecimal digits. -/
def codeUnit? (a b c d : Char) : Option Nat := do
  some (((← hexValue? a) * 16 + (← hexValue? b)) * 256 + (← hexValue? c) * 16 + (← hexValue? d))

/-- The pieces of the inside of a string.  Control characters may not stand bare. -/
def pieces? : List Char → Option (List Piece)
  | [] => some []
  | '\\' :: 'u' :: a :: b :: c :: d :: rest => do
    some (.unit (← codeUnit? a b c d) :: (← pieces? rest))
  | '\\' :: c :: rest => do some (.char (← shortEscape? c) :: (← pieces? rest))
  | c :: rest =>
    if c = '\\' ∨ c < ' ' then none else (pieces? rest).map (.char c :: ·)

/-- A code unit that opens a surrogate pair. -/
def isHigh (n : Nat) : Bool := 0xD800 ≤ n && n < 0xDC00

/-- A code unit that closes a surrogate pair. -/
def isLow (n : Nat) : Bool := 0xDC00 ≤ n && n < 0xE000

/-- The characters of a row of pieces.  A high code unit and the low one right
after it make one character; neither may stand alone. -/
def join? : List Piece → Option (List Char)
  | [] => some []
  | .char c :: rest => (join? rest).map (c :: ·)
  | .unit n :: .unit m :: rest =>
    if isHigh n then
      if isLow m then
        (join? rest).map (Char.ofNat (0x10000 + (n - 0xD800) * 0x400 + (m - 0xDC00)) :: ·)
      else none
    else if isLow n then none
    else (join? (.unit m :: rest)).map (Char.ofNat n :: ·)
  | .unit n :: rest =>
    if isHigh n || isLow n then none else (join? rest).map (Char.ofNat n :: ·)

/-- The string whose inside, between the quotation marks, is given. -/
def read? (body : List Char) : Option String :=
  ((pieces? body).bind join?).map String.ofList

end Quoted

/-! ### Lexemes -/

/-- A lexeme: what a text is cut into before its parts are read. -/
inductive Lexeme where
  /-- A punctuation mark. -/
  | mark (c : Char)
  /-- The inside of a string. -/
  | quoted (body : List Char)
  /-- A run of the characters of numerals and literals. -/
  | bare (word : List Char)
deriving DecidableEq

namespace Lexeme

/-- Where the automaton is.  What it has read of a lexeme is kept in reverse. -/
inductive State where
  | between
  | inWord (read : List Char)
  | inString (read : List Char)
  | afterBackslash (read : List Char)

/-- One character between two lexemes. -/
def startAt? (c : Char) : Option (State × List Lexeme) :=
  if isJsonBlank c then some (.between, [])
  else if isMark c then some (.between, [.mark c])
  else if c = '"' then some (.inString [], [])
  else if isBare c then some (.inWord [c], [])
  else none

/-- One character: the next state, and the lexemes that it completes. -/
def step? : State → Char → Option (State × List Lexeme)
  | .between, c => startAt? c
  | .inWord read, c =>
    if isBare c then some (.inWord (c :: read), [])
    else (startAt? c).map fun (state, done) => (state, .bare read.reverse :: done)
  | .inString read, c =>
    if c = '"' then some (.between, [.quoted read.reverse])
    else if c = '\\' then some (.afterBackslash (c :: read), [])
    else some (.inString (c :: read), [])
  | .afterBackslash read, c => some (.inString (c :: read), [])

/-- The lexeme completed by the end of the text. -/
def finish? : State → Option (List Lexeme)
  | .between => some []
  | .inWord read => some [.bare read.reverse]
  | .inString _ | .afterBackslash _ => none

/-- The lexemes of a text, from a given state on. -/
def scanFrom? (state : State) : List Char → Option (List Lexeme)
  | [] => finish? state
  | c :: cs =>
    match step? state c with
    | none => none
    | some (next, done) => (scanFrom? next cs).map (done ++ ·)

/-- The lexemes of a text. -/
def scan? (cs : List Char) : Option (List Lexeme) := scanFrom? .between cs

end Lexeme

/-! ### Tokens -/

namespace Token

/-- The characters of a token. -/
def chars : Token → List Char
  | .mark c => [c]
  | .null => ['n', 'u', 'l', 'l']
  | .bool true => ['t', 'r', 'u', 'e']
  | .bool false => ['f', 'a', 'l', 's', 'e']
  | .number n => n.chars
  | .string s => Quoted.chars s

/-- The token a lexeme is read as. -/
def ofLexeme? : Lexeme → Option Token
  | .mark c => some (.mark c)
  | .quoted body => (Quoted.read? body).map .string
  | .bare word =>
    if word = ['n', 'u', 'l', 'l'] then some .null
    else if word = ['t', 'r', 'u', 'e'] then some (.bool true)
    else if word = ['f', 'a', 'l', 's', 'e'] then some (.bool false)
    else (Number.ofChars? word).map .number

/-- The tokens of a text. -/
def scan? (cs : List Char) : Option (List Token) :=
  (Lexeme.scan? cs).bind fun lexemes => lexemes.mapM ofLexeme?

end Token

end Ocpp

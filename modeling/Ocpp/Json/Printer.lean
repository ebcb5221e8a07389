import Ocpp.Json.Token

/-!
# Writing JSON

The two texts of a JSON value: the compact one, which is its tokens with nothing
between them, and the indented one, with every item and member on a line of its
own.

## Main definitions

* `Json.tokens` — the tokens of a value.
* `Json.compact` — the compact text.
* `Json.indented` — the indented text, two spaces a level.
-/

namespace Ocpp

namespace Json

/-! ### Compact text -/

mutual

/-- The tokens of a value. -/
def tokens : Json → List Token
  | .null => [.null]
  | .bool b => [.bool b]
  | .number n => [.number n]
  | .string s => [.string s]
  | .array [] => [.mark '[', .mark ']']
  | .array (v :: items) => .mark '[' :: (v.tokens ++ (itemTokens items ++ [.mark ']']))
  | .object [] => [.mark '{', .mark '}']
  | .object ((k, v) :: members) =>
    .mark '{' :: .string k :: .mark ':' :: (v.tokens ++ (memberTokens members ++ [.mark '}']))

/-- The tokens of the further items of an array, each after its comma. -/
def itemTokens : List Json → List Token
  | [] => []
  | v :: items => .mark ',' :: (v.tokens ++ itemTokens items)

/-- The tokens of the further members of an object, each after its comma. -/
def memberTokens : List (String × Json) → List Token
  | [] => []
  | (k, v) :: members =>
    .mark ',' :: .string k :: .mark ':' :: (v.tokens ++ memberTokens members)

end

/-- The characters of the compact text. -/
def compactChars (v : Json) : List Char := v.tokens.flatMap Token.chars

/-- The compact text. -/
def compact (v : Json) : String := String.ofList v.compactChars

/-! ### Indented text -/

/-- A line break and the blanks before a line at the given level. -/
def newline (level : Nat) : List Char := '\n' :: List.replicate (2 * level) ' '

mutual

/-- The characters of the indented text of a value whose first line is already
indented by `level`. -/
def indentedChars (level : Nat) : Json → List Char
  | .null => Token.null.chars
  | .bool b => (Token.bool b).chars
  | .number n => (Token.number n).chars
  | .string s => (Token.string s).chars
  | .array [] => ['[', ']']
  | .array (v :: items) =>
    '[' :: (newline (level + 1) ++ (indentedChars (level + 1) v ++
      (indentedItems (level + 1) items ++ (newline level ++ [']']))))
  | .object [] => ['{', '}']
  | .object ((k, v) :: members) =>
    '{' :: (newline (level + 1) ++ (Quoted.chars k ++ (':' :: ' ' ::
      (indentedChars (level + 1) v ++
        (indentedMembers (level + 1) members ++ (newline level ++ ['}']))))))

/-- The lines of the further items of an array, each after its comma. -/
def indentedItems (level : Nat) : List Json → List Char
  | [] => []
  | v :: items =>
    ',' :: (newline level ++ (indentedChars level v ++ indentedItems level items))

/-- The lines of the further members of an object, each after its comma. -/
def indentedMembers (level : Nat) : List (String × Json) → List Char
  | [] => []
  | (k, v) :: members =>
    ',' :: (newline level ++ (Quoted.chars k ++ (':' :: ' ' ::
      (indentedChars level v ++ indentedMembers level members))))

end

/-- The indented text. -/
def indented (v : Json) : String := String.ofList (v.indentedChars 0)

end Json

end Ocpp

import Ocpp.Proofs.Json.Lexeme
import Ocpp.Proofs.Json.Reader

/-!
# Compact text written and read

The compact text of a value is cut into the tokens that it was written with, and these
are read back to the value.  Strings, keys and whole numbers always come back; a
binary64 number does where its numeral is read as that number.

## Main definitions

* `Json.NumbersReadBack` — every number in the value is what its numeral is read as.

## Main results

* `Json.yields_tokens` — the lexemes of the compact text.
* `Json.read?_compact` — **a value whose numbers read back comes back from its compact
  text, up to the order of members, exactly when it is nested at most `maxDepth` levels
  deep.**
-/

namespace Ocpp

namespace Json

open Lexeme

/-! ### The lexemes of the compact text -/

variable {c : Char}

theorem endsWord_mark (ts : List Token) (hc : isMark c = true) :
    EndsWord ((Token.mark c :: ts).flatMap Token.chars) := by
  rw [List.flatMap_cons]
  exact endsWord_cons _ (isBare_of_isMark hc)

/-- What follows a value in an array starts with a mark: a comma, or the closing one. -/
theorem endsWord_itemTokens (items : List Json) (hc : isMark c = true) :
    EndsWord ((itemTokens items ++ [Token.mark c]).flatMap Token.chars) := by
  cases items with
  | nil => exact endsWord_mark [] hc
  | cons v items =>
    have hcomma : isMark ',' = true := rfl
    exact endsWord_mark _ hcomma

theorem endsWord_memberTokens (members : List (String × Json)) (hc : isMark c = true) :
    EndsWord ((memberTokens members ++ [Token.mark c]).flatMap Token.chars) := by
  cases members with
  | nil => exact endsWord_mark [] hc
  | cons p members =>
    have hcomma : isMark ',' = true := rfl
    exact endsWord_mark _ hcomma

/-- The characters of a row of tokens are cut into the lexemes of these tokens. -/
def TokensYield (ts : List Token) : Prop := Yields (ts.flatMap Token.chars) (ts.map Token.lexeme)

theorem TokensYield.mark {ts : List Token} (hc : isMark c = true) (h : TokensYield ts) :
    TokensYield (.mark c :: ts) := by
  unfold TokensYield
  rw [List.flatMap_cons, List.map_cons]
  exact Yields.mark hc h

theorem TokensYield.string {ts : List Token} (s : String) (h : TokensYield ts) :
    TokensYield (.string s :: ts) := by
  unfold TokensYield
  rw [List.flatMap_cons, List.map_cons]
  exact Yields.quoted s h

theorem TokensYield.append {ts us : List Token} (h : TokensYield ts)
    (hend : EndsWord (us.flatMap Token.chars)) (h' : TokensYield us) : TokensYield (ts ++ us) := by
  unfold TokensYield
  rw [List.flatMap_append, List.map_append]
  exact Yields.append h hend h'

theorem tokensYield_closing (hc : isMark c = true) : TokensYield [.mark c] :=
  TokensYield.mark hc Yields.nil

theorem tokensYield_word {t : Token} {word : List Char} (hchars : t.chars = word)
    (hlexeme : t.lexeme = .bare word) (hne : word ≠ []) (h : ∀ c ∈ word, isBare c = true) :
    TokensYield [t] := by
  unfold TokensYield
  rw [List.flatMap_cons, List.flatMap_nil, List.append_nil, List.map_cons, List.map_nil, hchars,
    hlexeme]
  exact yields_word hne h

mutual

/-- **The compact text of a value is cut into the lexemes of its tokens.** -/
theorem yields_tokens : ∀ v : Json, TokensYield v.tokens
  | .null => tokensYield_word rfl rfl (List.cons_ne_nil _ _) (List.all_eq_true.1 rfl)
  | .bool true => tokensYield_word rfl rfl (List.cons_ne_nil _ _) (List.all_eq_true.1 rfl)
  | .bool false => tokensYield_word rfl rfl (List.cons_ne_nil _ _) (List.all_eq_true.1 rfl)
  | .number n => tokensYield_word rfl rfl n.chars_ne_nil fun _ hc =>
      isBare_of_isNumeric (Number.isNumeric_of_mem_chars hc)
  | .string s => TokensYield.string s Yields.nil
  | .array [] => TokensYield.mark rfl (tokensYield_closing rfl)
  | .array (v :: items) =>
    TokensYield.mark rfl ((yields_tokens v).append (endsWord_itemTokens items rfl)
      (yields_itemTokens items rfl))
  | .object [] => TokensYield.mark rfl (tokensYield_closing rfl)
  | .object ((k, v) :: members) =>
    TokensYield.mark rfl (TokensYield.string k (TokensYield.mark rfl
      ((yields_tokens v).append (endsWord_memberTokens members rfl)
        (yields_memberTokens members rfl))))

theorem yields_itemTokens : ∀ (items : List Json) {c : Char}, isMark c = true →
    TokensYield (itemTokens items ++ [Token.mark c])
  | [], _, hc => tokensYield_closing hc
  | v :: items, c, hc => by
    rw [itemTokens, List.cons_append, List.append_assoc]
    exact TokensYield.mark rfl ((yields_tokens v).append (endsWord_itemTokens items hc)
      (yields_itemTokens items hc))

theorem yields_memberTokens : ∀ (members : List (String × Json)) {c : Char}, isMark c = true →
    TokensYield (memberTokens members ++ [Token.mark c])
  | [], _, hc => tokensYield_closing hc
  | (k, v) :: members, c, hc => by
    rw [memberTokens, List.cons_append, List.cons_append, List.cons_append, List.append_assoc]
    exact TokensYield.mark rfl (TokensYield.string k (TokensYield.mark rfl
      ((yields_tokens v).append (endsWord_memberTokens members hc)
        (yields_memberTokens members hc))))

end

theorem scan?_compactChars (v : Json) :
    Lexeme.scan? v.compactChars = some (v.tokens.map Token.lexeme) := by
  have h := yields_tokens v [] endsWord_nil
  rw [List.append_nil] at h
  unfold Lexeme.scan? compactChars
  rw [h]
  change some (v.tokens.map Token.lexeme ++ []) = _
  rw [List.append_nil]

/-! ### Numbers -/

/-- The value is no number, or a number that reads back. -/
def ReadsBack : Json → Prop
  | .number n => n.ReadsBack
  | _ => True

/-- Every number in the value is what its numeral is read as. -/
def NumbersReadBack (v : Json) : Prop := v.Everywhere ReadsBack

/-- A value without binary64 numbers has numbers that read back only. -/
theorem FloatFree.numbersReadBack {v : Json} (h : v.FloatFree) : v.NumbersReadBack := by
  refine Everywhere.mono (fun w hw => ?_) v h
  cases w with
  | number n =>
    cases n with
    | integer n fits => exact Number.readsBack_integer n fits
    | float x => exact absurd hw id
  | _ => trivial

mutual

theorem readsBack_of_mem_tokens : ∀ (v : Json), v.NumbersReadBack →
    ∀ t ∈ v.tokens, t.ReadsBack
  | .null, _ => by simp [tokens, Token.ReadsBack]
  | .bool b, _ => by simp [tokens, Token.ReadsBack]
  | .number n, h => by
    have hn : n.ReadsBack := h
    simpa [tokens, Token.ReadsBack] using hn
  | .string s, _ => by simp [tokens, Token.ReadsBack]
  | .array [], _ => by simp [tokens, Token.ReadsBack]
  | .array (v :: items), h => by
    have hv := readsBack_of_mem_tokens v h.2.1
    have hitems := readsBack_of_mem_itemTokens items h.2.2
    intro t ht
    simp only [tokens, List.mem_cons, List.mem_append, List.not_mem_nil, or_false] at ht
    rcases ht with rfl | ht | ht | rfl
    · trivial
    · exact hv t ht
    · exact hitems t ht
    · trivial
  | .object [], _ => by simp [tokens, Token.ReadsBack]
  | .object ((k, v) :: members), h => by
    have hv := readsBack_of_mem_tokens v h.2.1
    have hmembers := readsBack_of_mem_memberTokens members h.2.2
    intro t ht
    simp only [tokens, List.mem_cons, List.mem_append, List.not_mem_nil, or_false] at ht
    rcases ht with rfl | rfl | rfl | ht | ht | rfl
    · trivial
    · trivial
    · trivial
    · exact hv t ht
    · exact hmembers t ht
    · trivial

theorem readsBack_of_mem_itemTokens : ∀ (items : List Json), EverywhereItems ReadsBack items →
    ∀ t ∈ itemTokens items, t.ReadsBack
  | [], _ => by simp [itemTokens]
  | v :: items, h => by
    have hv := readsBack_of_mem_tokens v h.1
    have hitems := readsBack_of_mem_itemTokens items h.2
    intro t ht
    simp only [itemTokens, List.mem_cons, List.mem_append] at ht
    rcases ht with rfl | ht | ht
    · trivial
    · exact hv t ht
    · exact hitems t ht

theorem readsBack_of_mem_memberTokens : ∀ (members : List (String × Json)),
    EverywhereMembers ReadsBack members → ∀ t ∈ memberTokens members, t.ReadsBack
  | [], _ => by simp [memberTokens]
  | (k, v) :: members, h => by
    have hv := readsBack_of_mem_tokens v h.1
    have hmembers := readsBack_of_mem_memberTokens members h.2
    intro t ht
    simp only [memberTokens, List.mem_cons, List.mem_append] at ht
    rcases ht with rfl | rfl | rfl | ht | ht
    · trivial
    · trivial
    · trivial
    · exact hv t ht
    · exact hmembers t ht

end

/-! ### The compact text -/

/-- **A value whose numbers read back comes back from its compact text**, up to the order
of members, exactly when it is nested at most `maxDepth` levels deep. -/
theorem read?_compact {v : Json} (h : v.NumbersReadBack) :
    read? v.compact = if v.depth ≤ maxDepth then some v.sorted else none := by
  unfold read? readChars? compact Token.scan?
  rw [String.toList_ofList, scan?_compactChars, Option.bind_some,
    Token.mapM_ofLexeme?_lexeme (readsBack_of_mem_tokens v h), Option.bind_some, ofTokens?_tokens]

end Json

end Ocpp

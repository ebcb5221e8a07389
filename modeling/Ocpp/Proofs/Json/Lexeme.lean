import Ocpp.Proofs.Json.Numeral
import Ocpp.Proofs.Json.Quoted

/-!
# Cutting text into lexemes

The automaton cuts a written token off the front of a text as one lexeme, provided that
a word is not run together with what follows it.

## Main definitions

* `Token.lexeme` — the lexeme that a token is written as.
* `Lexeme.EndsWord` — a text that does not go on with a character of words.
* `Lexeme.Yields cs ls` — the characters `cs` are cut into the lexemes `ls`, whatever
  follows, if it only ends a word.

## Main results

* `Lexeme.Yields.mark`, `Lexeme.Yields.quoted`, `Lexeme.yields_word` — one token.
* `Lexeme.Yields.append` — one text after another.
* `Token.ofLexeme?_lexeme` — the lexeme of a token is read as the token.
-/

namespace Ocpp

/-! ### Classes of characters -/

theorem isBare_of_isNumeric {c : Char} (h : isNumeric c = true) : isBare c = true := by
  simp only [isNumeric, Bool.or_eq_true, beq_iff_eq] at h
  rcases h with (((h | rfl) | rfl) | rfl) | rfl
  · simp [isBare, Char.isAlphanum, h]
  · rfl
  · rfl
  · rfl
  · rfl

theorem isJsonBlank_of_isBare {c : Char} (h : isBare c = true) : isJsonBlank c = false := by
  cases hblank : isJsonBlank c with
  | false => rfl
  | true =>
    simp only [isJsonBlank, Bool.or_eq_true, beq_iff_eq] at hblank
    rcases hblank with ((rfl | rfl) | rfl) | rfl <;> revert h <;> decide

theorem isMark_iff {c : Char} : isMark c = true ↔
    c = '[' ∨ c = ']' ∨ c = '{' ∨ c = '}' ∨ c = ',' ∨ c = ':' := by
  simp only [isMark, Bool.or_eq_true, beq_iff_eq, or_assoc]

theorem isMark_of_isBare {c : Char} (h : isBare c = true) : isMark c = false := by
  cases hmark : isMark c with
  | false => rfl
  | true =>
    rcases isMark_iff.1 hmark with rfl | rfl | rfl | rfl | rfl | rfl <;> revert h <;> decide

theorem isJsonBlank_of_isMark {c : Char} (h : isMark c = true) : isJsonBlank c = false := by
  rcases isMark_iff.1 h with rfl | rfl | rfl | rfl | rfl | rfl <;> rfl

theorem isBare_of_isMark {c : Char} (h : isMark c = true) : isBare c = false := by
  rcases isMark_iff.1 h with rfl | rfl | rfl | rfl | rfl | rfl <;> rfl

namespace Lexeme

/-! ### The automaton between two lexemes -/

theorem startAt?_mark {c : Char} (h : isMark c = true) : startAt? c = some (.between, [.mark c]) := by
  rw [startAt?, if_neg (by simp [isJsonBlank_of_isMark h]), if_pos h]

theorem startAt?_bare {c : Char} (h : isBare c = true) : startAt? c = some (.inWord [c], []) := by
  have hquote : c ≠ '"' := by
    rintro rfl
    revert h
    decide
  rw [startAt?, if_neg (by simp [isJsonBlank_of_isBare h]), if_neg (by simp [isMark_of_isBare h]),
    if_neg hquote, if_pos h]

theorem scanFrom?_cons (state : State) (c : Char) (cs : List Char) :
    scanFrom? state (c :: cs)
      = (step? state c).bind fun next => (scanFrom? next.1 cs).map (next.2 ++ ·) := by
  rw [scanFrom?]
  cases step? state c with
  | none => rfl
  | some next => rfl

/-- A step that completes nothing only changes the state. -/
theorem scanFrom?_of_step {state next : State} {c : Char} (h : step? state c = some (next, []))
    (cs : List Char) : scanFrom? state (c :: cs) = scanFrom? next cs := by
  rw [scanFrom?_cons, h]
  simp

/-! ### Words -/

/-- The text does not go on with a character of words. -/
def EndsWord (rest : List Char) : Prop := ∀ c ∈ rest.head?, isBare c = false

theorem endsWord_nil : EndsWord [] := by
  intro c hc
  cases hc

theorem endsWord_cons {c : Char} (rest : List Char) (h : isBare c = false) : EndsWord (c :: rest) := by
  rintro d ⟨⟩
  exact h

theorem EndsWord.append {cs rest : List Char} (hc : EndsWord cs) (hr : EndsWord rest) :
    EndsWord (cs ++ rest) := by
  cases cs with
  | nil => exact hr
  | cons c cs => exact hc

/-- A word is completed by the end of the text and by every character that is not part
of it. -/
theorem scanFrom?_inWord {rest : List Char} (read : List Char) (h : EndsWord rest) :
    scanFrom? (.inWord read) rest = (scanFrom? .between rest).map (.bare read.reverse :: ·) := by
  cases rest with
  | nil => rfl
  | cons c cs =>
    rw [scanFrom?_cons, scanFrom?_cons, step?, step?, if_neg (by simp [h c rfl])]
    cases startAt? c with
    | none => rfl
    | some next => simp [Function.comp_def]

theorem scanFrom?_word {word : List Char} (read rest : List Char)
    (h : ∀ c ∈ word, isBare c = true) :
    scanFrom? (.inWord read) (word ++ rest) = scanFrom? (.inWord (word.reverse ++ read)) rest := by
  induction word generalizing read with
  | nil => rfl
  | cons c word ih =>
    obtain ⟨hc, hword⟩ := List.forall_mem_cons.1 h
    rw [List.cons_append, scanFrom?_of_step (by rw [step?, if_pos hc]), ih (c :: read) hword,
      List.reverse_cons, List.append_assoc, List.singleton_append]

/-! ### Strings -/

/-- A character of a string that is neither a quotation mark nor a backslash. -/
theorem scanFrom?_inString_plain {c : Char} (read rest : List Char) (hq : c ≠ '"') (hb : c ≠ '\\') :
    scanFrom? (.inString read) (c :: rest) = scanFrom? (.inString (c :: read)) rest :=
  scanFrom?_of_step (by rw [step?, if_neg hq, if_neg hb]) rest

/-- A backslash takes the character after it into the string, whatever it is. -/
theorem scanFrom?_inString_escaped (read : List Char) (c : Char) (rest : List Char) :
    scanFrom? (.inString read) ('\\' :: c :: rest) = scanFrom? (.inString (c :: '\\' :: read)) rest := by
  rw [scanFrom?_of_step (by rw [step?, if_neg (by decide), if_pos rfl]), scanFrom?_of_step rfl]

theorem scanFrom?_inString_plains {ds : List Char} (read rest : List Char)
    (h : ∀ e ∈ ds, e ≠ '"' ∧ e ≠ '\\') :
    scanFrom? (.inString read) (ds ++ rest) = scanFrom? (.inString (ds.reverse ++ read)) rest := by
  induction ds generalizing read with
  | nil => rfl
  | cons d ds ih =>
    obtain ⟨⟨hquote, hbackslash⟩, hds⟩ := List.forall_mem_cons.1 h
    rw [List.cons_append, scanFrom?_inString_plain _ _ hquote hbackslash, ih _ hds,
      List.reverse_cons, List.append_assoc, List.singleton_append]

/-- A written character stays inside the string. -/
theorem scanFrom?_escape (read : List Char) (c : Char) (rest : List Char) :
    scanFrom? (.inString read) (Quoted.escape c ++ rest)
      = scanFrom? (.inString ((Quoted.escape c).reverse ++ read)) rest := by
  rcases Quoted.escape_cases c with ⟨d, ds, hescape, hplain⟩ | ⟨hescape, hquote, hbackslash⟩
  · rw [hescape, List.cons_append, List.cons_append, scanFrom?_inString_escaped,
      scanFrom?_inString_plains _ _ hplain]
    simp
  · rw [hescape]
    exact scanFrom?_inString_plain read rest hquote hbackslash

theorem scanFrom?_escaped (cs read rest : List Char) :
    scanFrom? (.inString read) (cs.flatMap Quoted.escape ++ rest)
      = scanFrom? (.inString ((cs.flatMap Quoted.escape).reverse ++ read)) rest := by
  induction cs generalizing read with
  | nil => rfl
  | cons c cs ih =>
    rw [List.flatMap_cons, List.append_assoc, scanFrom?_escape, ih, List.reverse_append,
      List.append_assoc]

/-! ### Texts made of tokens -/

/-- The characters are cut into the lexemes, whatever follows, if it only ends a word. -/
def Yields (cs : List Char) (ls : List Lexeme) : Prop :=
  ∀ rest, EndsWord rest → scanFrom? .between (cs ++ rest) = (scanFrom? .between rest).map (ls ++ ·)

namespace Yields

variable {cs ds : List Char} {ls ms : List Lexeme}

theorem nil : Yields [] [] := by
  intro rest _
  simp

/-- One text after another.  The second must not run on a word of the first. -/
theorem append (h : Yields cs ls) (hend : EndsWord ds) (h' : Yields ds ms) :
    Yields (cs ++ ds) (ls ++ ms) := by
  intro rest hr
  rw [List.append_assoc, h _ (hend.append hr), h' rest hr, Option.map_map]
  congr 1
  funext x
  simp

/-- A punctuation mark needs nothing of what follows. -/
theorem mark {c : Char} (hc : isMark c = true) (h : Yields cs ls) :
    Yields (c :: cs) (.mark c :: ls) := by
  intro rest hr
  rw [List.cons_append, scanFrom?_cons, step?, startAt?_mark hc, Option.bind_some, h rest hr,
    Option.map_map]
  rfl

/-- A string needs nothing of what follows. -/
theorem quoted (s : String) (h : Yields cs ls) :
    Yields (Quoted.chars s ++ cs) (.quoted (s.toList.flatMap Quoted.escape) :: ls) := by
  intro rest hr
  have hopen : step? .between '"' = some (.inString [], []) := rfl
  unfold Quoted.chars
  rw [List.cons_append, List.cons_append, List.append_assoc, List.append_assoc,
    scanFrom?_of_step hopen, scanFrom?_escaped, List.append_nil, List.singleton_append,
    scanFrom?_cons, step?, if_pos rfl, Option.bind_some, h rest hr,
    Option.map_map, List.reverse_reverse]
  rfl

end Yields

/-- A word is one lexeme. -/
theorem yields_word {word : List Char} (hne : word ≠ []) (h : ∀ c ∈ word, isBare c = true) :
    Yields word [.bare word] := by
  intro rest hr
  cases word with
  | nil => exact absurd rfl hne
  | cons c word =>
    obtain ⟨hc, hword⟩ := List.forall_mem_cons.1 h
    rw [List.cons_append, scanFrom?_of_step (by rw [step?, startAt?_bare hc]),
      scanFrom?_word [c] rest hword, scanFrom?_inWord _ hr, List.reverse_append,
      List.reverse_reverse]
    rfl

end Lexeme

/-! ### Tokens and their lexemes -/

namespace Token

/-- The lexeme that a token is written as. -/
def lexeme : Token → Lexeme
  | .mark c => .mark c
  | .null => .bare ['n', 'u', 'l', 'l']
  | .bool true => .bare ['t', 'r', 'u', 'e']
  | .bool false => .bare ['f', 'a', 'l', 's', 'e']
  | .number n => .bare n.chars
  | .string s => .quoted (s.toList.flatMap Quoted.escape)

/-- The token is no number, or a number that reads back. -/
def ReadsBack : Token → Prop
  | .number n => n.ReadsBack
  | _ => True

/-- A numeral is none of the literals: it has no letter but the exponent mark. -/
theorem chars_number_ne {n : Number} {word : List Char} {c : Char} (hc : c ∈ word)
    (h : isNumeric c = false) : n.chars ≠ word := by
  rintro rfl
  rw [Number.isNumeric_of_mem_chars hc] at h
  cases h

theorem ofLexeme?_number (n : Number) :
    ofLexeme? (.bare n.chars) = (Number.ofChars? n.chars).map .number := by
  rw [ofLexeme?, if_neg (chars_number_ne (c := 'n') (by simp) rfl),
    if_neg (chars_number_ne (c := 't') (by simp) rfl),
    if_neg (chars_number_ne (c := 'f') (by simp) rfl)]

/-- The lexeme of a token is read as the token, for a number if the number reads back. -/
theorem ofLexeme?_lexeme {t : Token} (h : t.ReadsBack) : ofLexeme? t.lexeme = some t := by
  cases t with
  | mark c => rfl
  | null => rfl
  | bool b => cases b <;> rfl
  | number n =>
    have hn : Number.ofChars? n.chars = some n := h
    rw [lexeme, ofLexeme?_number, hn]
    rfl
  | string s =>
    rw [lexeme, ofLexeme?, Quoted.read?_escape]
    rfl

theorem mapM_ofLexeme?_lexeme {ts : List Token} (h : ∀ t ∈ ts, t.ReadsBack) :
    (ts.map lexeme).mapM ofLexeme? = some ts := by
  induction ts with
  | nil => rfl
  | cons t ts ih =>
    obtain ⟨ht, hts⟩ := List.forall_mem_cons.1 h
    rw [List.map_cons, List.mapM_cons, ofLexeme?_lexeme ht, ih hts]
    rfl

end Token

end Ocpp

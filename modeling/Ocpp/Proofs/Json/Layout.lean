import Ocpp.Proofs.Json.Compact

/-!
# The two layouts

The compact text and the indented text of a value are rows of the same tokens, which only
differ in the blanks between them.  So they are read alike, whether they can be read or
not, and the indented text without the blanks outside its strings is the compact one.

## Main definitions

* `Json.condense` — a text without the line breaks and spaces outside its strings.
* `Json.Spaced ts cs` — the characters `cs` are the tokens `ts` with blanks between them.

## Main results

* `Json.spaced_indentedChars` — the indented text is the tokens of the value, spaced.
* `Json.read?_indented_line` — **the two texts are read alike.**
* `Json.condense_indented_line` — **what is left of the indented text is the compact one.**
-/

namespace Ocpp

namespace Json

open Lexeme

/-! ### Texts without blanks -/

/-- Where a character stands in a JSON text: outside strings, in a string, or in a string
after a backslash. -/
inductive Place where
  | outside
  | inside
  | escaped
deriving DecidableEq

/-- The place of the character after one that is given. -/
def Place.next : Place → Char → Place
  | .outside, c => if c = '"' then .inside else .outside
  | .inside, c => if c = '"' then .outside else if c = '\\' then .escaped else .inside
  | .escaped, _ => .inside

/-- The text from a place on without the line breaks and the spaces outside strings. -/
def condenseFrom (place : Place) : List Char → List Char
  | [] => []
  | c :: cs =>
    if place = .outside ∧ (c = '\n' ∨ c = ' ') then condenseFrom place cs
    else c :: condenseFrom (place.next c) cs

/-- The text without the line breaks and the spaces outside its strings. -/
def condense (text : String) : String := String.ofList (condenseFrom .outside text.toList)

theorem condenseFrom_blank {c : Char} (hc : c = '\n' ∨ c = ' ') (cs : List Char) :
    condenseFrom .outside (c :: cs) = condenseFrom .outside cs := if_pos ⟨rfl, hc⟩

/-- Outside strings any other character is kept. -/
theorem condenseFrom_kept {c : Char} (hblank : isJsonBlank c = false) (hquote : c ≠ '"')
    (cs : List Char) : condenseFrom .outside (c :: cs) = c :: condenseFrom .outside cs := by
  have hc : ¬ (Place.outside = .outside ∧ (c = '\n' ∨ c = ' ')) := by
    rintro ⟨-, rfl | rfl⟩ <;> cases hblank
  rw [condenseFrom, if_neg hc, Place.next, if_neg hquote]

theorem condenseFrom_word {word : List Char} (h : ∀ c ∈ word, isBare c = true) (cs : List Char) :
    condenseFrom .outside (word ++ cs) = word ++ condenseFrom .outside cs := by
  induction word with
  | nil => rfl
  | cons c word ih =>
    obtain ⟨hc, hword⟩ := List.forall_mem_cons.1 h
    have hquote : c ≠ '"' := by
      rintro rfl
      cases hc
    rw [List.cons_append, condenseFrom_kept (isJsonBlank_of_isBare hc) hquote, ih hword]
    rfl

/-- In a string every character is kept. -/
theorem condenseFrom_inside (c : Char) (cs : List Char) :
    condenseFrom .inside (c :: cs) = c :: condenseFrom (Place.inside.next c) cs :=
  if_neg fun h => Place.noConfusion h.1

theorem condenseFrom_plains {ds : List Char} (h : ∀ e ∈ ds, e ≠ '"' ∧ e ≠ '\\') (cs : List Char) :
    condenseFrom .inside (ds ++ cs) = ds ++ condenseFrom .inside cs := by
  induction ds with
  | nil => rfl
  | cons d ds ih =>
    obtain ⟨⟨hquote, hbackslash⟩, hds⟩ := List.forall_mem_cons.1 h
    rw [List.cons_append, condenseFrom_inside, Place.next, if_neg hquote, if_neg hbackslash,
      ih hds]
    rfl

/-- A written character stays inside the string, whatever it is. -/
theorem condenseFrom_escape (c : Char) (cs : List Char) :
    condenseFrom .inside (Quoted.escape c ++ cs)
      = Quoted.escape c ++ condenseFrom .inside cs := by
  rcases Quoted.escape_cases c with ⟨d, ds, hescape, hplain⟩ | ⟨hescape, hquote, hbackslash⟩
  · -- the backslash takes the next character with it
    have hnext : Place.inside.next '\\' = .escaped := rfl
    have hescaped : condenseFrom .escaped (d :: (ds ++ cs)) = d :: condenseFrom .inside (ds ++ cs) :=
      if_neg fun h => Place.noConfusion h.1
    rw [hescape, List.cons_append, List.cons_append, condenseFrom_inside, hnext, hescaped,
      condenseFrom_plains hplain]
    rfl
  · have hplain : ∀ e ∈ [c], e ≠ '"' ∧ e ≠ '\\' := by simp [hquote, hbackslash]
    rw [hescape]
    exact condenseFrom_plains hplain cs

theorem condenseFrom_escaped (s cs : List Char) :
    condenseFrom .inside (s.flatMap Quoted.escape ++ cs)
      = s.flatMap Quoted.escape ++ condenseFrom .inside cs := by
  induction s with
  | nil => rfl
  | cons c s ih =>
    rw [List.flatMap_cons, List.append_assoc, condenseFrom_escape, ih, List.append_assoc]

/-- A string is kept as it is. -/
theorem condenseFrom_quoted (s : String) (cs : List Char) :
    condenseFrom .outside (Quoted.chars s ++ cs)
      = Quoted.chars s ++ condenseFrom .outside cs := by
  have hopen : ∀ rest, condenseFrom .outside ('"' :: rest) = '"' :: condenseFrom .inside rest :=
    fun _ => rfl
  have hclose : ∀ rest, condenseFrom .inside ('"' :: rest) = '"' :: condenseFrom .outside rest :=
    fun _ => rfl
  unfold Quoted.chars
  rw [List.cons_append, List.append_assoc, List.singleton_append, hopen, condenseFrom_escaped,
    hclose, List.cons_append, List.append_assoc, List.singleton_append]

/-! ### Tokens with blanks between them -/

/-- The characters are the tokens with line breaks and spaces between them.  A word is not
run on by what follows it. -/
inductive Spaced : List Token → List Char → Prop where
  | nil : Spaced [] []
  | blank {ts : List Token} {cs : List Char} {c : Char} (blank : c = '\n' ∨ c = ' ')
      (rest : Spaced ts cs) : Spaced ts (c :: cs)
  | mark {ts : List Token} {cs : List Char} {c : Char} (mark : isMark c = true)
      (rest : Spaced ts cs) : Spaced (.mark c :: ts) (c :: cs)
  | string {ts : List Token} {cs : List Char} (s : String) (rest : Spaced ts cs) :
    Spaced (.string s :: ts) (Quoted.chars s ++ cs)
  | word {ts : List Token} {cs : List Char} {t : Token} (lexeme : t.lexeme = .bare t.chars)
      (ne_nil : t.chars ≠ []) (bare : ∀ c ∈ t.chars, isBare c = true) (ends : EndsWord cs)
      (rest : Spaced ts cs) : Spaced (t :: ts) (t.chars ++ cs)

/-- Blanks are no lexemes. -/
theorem Yields.blank {cs : List Char} {ls : List Lexeme} {c : Char} (hc : c = '\n' ∨ c = ' ')
    (h : Yields cs ls) : Yields (c :: cs) ls := by
  intro rest hr
  have hstep : step? .between c = some (.between, []) := by
    rcases hc with rfl | rfl <;> rfl
  rw [List.cons_append, scanFrom?_of_step hstep, h rest hr]

/-- Spaced tokens are cut into the lexemes of these tokens. -/
theorem Spaced.yields {ts : List Token} {cs : List Char} (h : Spaced ts cs) :
    Yields cs (ts.map Token.lexeme) := by
  induction h with
  | nil => exact Yields.nil
  | blank blank rest ih => exact Yields.blank blank ih
  | mark mark rest ih => exact Yields.mark mark ih
  | string s rest ih => exact Yields.quoted s ih
  | word lexeme ne_nil bare ends rest ih =>
    rw [List.map_cons, lexeme]
    exact Yields.append (yields_word ne_nil bare) ends ih

/-- Without the blanks there are left the tokens, one right after the other. -/
theorem Spaced.condenseFrom_eq {ts : List Token} {cs : List Char} (h : Spaced ts cs) :
    condenseFrom .outside cs = ts.flatMap Token.chars := by
  induction h with
  | nil => rfl
  | blank blank rest ih => rw [condenseFrom_blank blank, ih]
  | @mark ts cs c mark rest ih =>
    have hquote : c ≠ '"' := by
      rintro rfl
      exact absurd mark (by decide)
    rw [condenseFrom_kept (isJsonBlank_of_isMark mark) hquote, ih]
    rfl
  | string s rest ih =>
    rw [condenseFrom_quoted, ih]
    rfl
  | word lexeme ne_nil bare ends rest ih => rw [condenseFrom_word bare, ih, List.flatMap_cons]

/-! ### The indented text -/

variable {ts : List Token} {cs : List Char}

theorem Spaced.newline (level : Nat) (h : Spaced ts cs) : Spaced ts (newline level ++ cs) := by
  have hspaces : ∀ n, Spaced ts (List.replicate n ' ' ++ cs) := by
    intro n
    induction n with
    | zero => exact h
    | succ n ih => exact .blank (Or.inr rfl) ih
  exact .blank (Or.inl rfl) (hspaces _)

theorem endsWord_newline (level : Nat) (cs : List Char) : EndsWord (newline level ++ cs) :=
  endsWord_cons _ rfl

/-- A further item starts with its comma, and after the last one the text goes on. -/
theorem endsWord_indentedItems (level : Nat) (items : List Json) (hends : EndsWord cs) :
    EndsWord (indentedItems level items ++ cs) := by
  cases items with
  | nil => exact hends
  | cons v items => exact endsWord_cons _ rfl

theorem endsWord_indentedMembers (level : Nat) (members : List (String × Json))
    (hends : EndsWord cs) : EndsWord (indentedMembers level members ++ cs) := by
  cases members with
  | nil => exact hends
  | cons p members => exact endsWord_cons _ rfl

/-- A literal is a word. -/
theorem Spaced.literal {t : Token} {word : List Char} (hchars : t.chars = word)
    (hlexeme : t.lexeme = .bare word) (hne : word ≠ []) (hbare : word.all isBare = true)
    (hends : EndsWord cs) (h : Spaced ts cs) : Spaced (t :: ts) (word ++ cs) := by
  subst hchars
  exact .word hlexeme hne (List.all_eq_true.1 hbare) hends h

mutual

/-- **The indented text of a value is its tokens, spaced.** -/
theorem spaced_indentedChars : ∀ (v : Json) (level : Nat) {ts : List Token} {cs : List Char},
    EndsWord cs → Spaced ts cs → Spaced (v.tokens ++ ts) (indentedChars level v ++ cs)
  | .null, _, _, _, hends, h => .literal rfl rfl (List.cons_ne_nil _ _) rfl hends h
  | .bool true, _, _, _, hends, h => .literal rfl rfl (List.cons_ne_nil _ _) rfl hends h
  | .bool false, _, _, _, hends, h => .literal rfl rfl (List.cons_ne_nil _ _) rfl hends h
  | .number n, _, _, _, hends, h =>
    .word rfl n.chars_ne_nil (fun _ hc => isBare_of_isNumeric (Number.isNumeric_of_mem_chars hc))
      hends h
  | .string s, _, _, _, _, h => .string s h
  | .array [], _, _, _, _, h => .mark rfl (.mark rfl h)
  | .array (v :: items), level, ts, cs, _, h => by
    have hclose : Spaced (.mark ']' :: ts) (newline level ++ ']' :: cs) :=
      .newline level (.mark rfl h)
    have hitems := spaced_indentedItems items (level + 1) (endsWord_newline level _) hclose
    have hfirst := spaced_indentedChars v (level + 1)
      (endsWord_indentedItems (level + 1) items (endsWord_newline level _)) hitems
    have hopen : Spaced (.mark '[' :: _) ('[' :: _) := .mark rfl (hfirst.newline (level + 1))
    simpa [tokens, indentedChars] using hopen
  | .object [], _, _, _, _, h => .mark rfl (.mark rfl h)
  | .object ((k, v) :: members), level, ts, cs, _, h => by
    have hclose : Spaced (.mark '}' :: ts) (newline level ++ '}' :: cs) :=
      .newline level (.mark rfl h)
    have hmembers := spaced_indentedMembers members (level + 1) (endsWord_newline level _) hclose
    have hfirst := spaced_indentedChars v (level + 1)
      (endsWord_indentedMembers (level + 1) members (endsWord_newline level _)) hmembers
    have hkey : Spaced (.string k :: .mark ':' :: _) (Quoted.chars k ++ ':' :: ' ' :: _) :=
      .string k (.mark rfl (.blank (Or.inr rfl) hfirst))
    have hopen : Spaced (.mark '{' :: _) ('{' :: _) := .mark rfl (hkey.newline (level + 1))
    simpa [tokens, indentedChars] using hopen

theorem spaced_indentedItems : ∀ (items : List Json) (level : Nat) {ts : List Token}
    {cs : List Char}, EndsWord cs → Spaced ts cs →
      Spaced (itemTokens items ++ ts) (indentedItems level items ++ cs)
  | [], _, _, _, _, h => h
  | v :: items, level, ts, cs, hends, h => by
    have hitems := spaced_indentedItems items level hends h
    have hfirst := spaced_indentedChars v level (endsWord_indentedItems level items hends) hitems
    have hcomma : Spaced (.mark ',' :: _) (',' :: _) := .mark rfl (hfirst.newline level)
    simpa [itemTokens, indentedItems] using hcomma

theorem spaced_indentedMembers : ∀ (members : List (String × Json)) (level : Nat)
    {ts : List Token} {cs : List Char}, EndsWord cs → Spaced ts cs →
      Spaced (memberTokens members ++ ts) (indentedMembers level members ++ cs)
  | [], _, _, _, _, h => h
  | (k, v) :: members, level, ts, cs, hends, h => by
    have hmembers := spaced_indentedMembers members level hends h
    have hfirst := spaced_indentedChars v level (endsWord_indentedMembers level members hends)
      hmembers
    have hkey : Spaced (.string k :: .mark ':' :: _) (Quoted.chars k ++ ':' :: ' ' :: _) :=
      .string k (.mark rfl (.blank (Or.inr rfl) hfirst))
    have hcomma : Spaced (.mark ',' :: _) (',' :: _) := .mark rfl (hkey.newline level)
    simpa [memberTokens, indentedMembers] using hcomma

end

/-! ### A line of either layout -/

/-- The indented text and a line break after it. -/
theorem spaced_line (v : Json) : Spaced v.tokens (v.indentedChars 0 ++ ['\n']) := by
  have hbreak : Spaced [] ['\n'] := .blank (Or.inl rfl) .nil
  simpa using spaced_indentedChars v 0 (endsWord_cons [] rfl) hbreak

/-- **The two texts of a value are read alike**, each as a line of its own. -/
theorem read?_indented_line (v : Json) : read? (v.indented ++ "\n") = read? (v.compact ++ "\n") := by
  have hindented : Lexeme.scan? (v.indentedChars 0 ++ ['\n']) = some (v.tokens.map Token.lexeme) := by
    have h := (spaced_line v).yields [] endsWord_nil
    rw [List.append_nil] at h
    unfold Lexeme.scan?
    rw [h]
    simp [scanFrom?, finish?]
  have hcompact : Lexeme.scan? (v.compactChars ++ ['\n']) = some (v.tokens.map Token.lexeme) := by
    have h := yields_tokens v ['\n'] (endsWord_cons [] rfl)
    unfold Lexeme.scan? compactChars
    rw [h]
    simp [scanFrom?, step?, startAt?, isJsonBlank, finish?]
  unfold read? readChars? Token.scan?
  simp only [String.toList_append, indented, compact, String.toList_ofList]
  change ((Lexeme.scan? (v.indentedChars 0 ++ ['\n'])).bind _).bind _
    = ((Lexeme.scan? (v.compactChars ++ ['\n'])).bind _).bind _
  rw [hindented, hcompact]

/-- **What is left of an indented line without the blanks outside its strings is the
compact text.** -/
theorem condense_indented_line (v : Json) : condense (v.indented ++ "\n") = v.compact := by
  unfold condense compact compactChars
  rw [String.toList_append, indented, String.toList_ofList]
  exact congrArg String.ofList (spaced_line v).condenseFrom_eq

end Json

end Ocpp

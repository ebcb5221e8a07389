import Ocpp.Json.Token

/-!
# Strings written and read

A string between its quotation marks reads back as it was: every escape stands for the
character that it was written for, and no other character is changed.

## Main definitions

* `Quoted.StandsFor p c` — a piece of a string is read as the character `c`.

## Main results

* `Quoted.exists_piece_escape` — a written character is read as one piece, which stands
  for it.
* `Quoted.read?_escape` — **the inside of a written string reads back as the string.**
-/

namespace Ocpp

namespace Quoted

/-- The piece is read as the character, whatever pieces follow. -/
def StandsFor (p : Piece) (c : Char) : Prop :=
  ∀ rest, join? (p :: rest) = (join? rest).map (c :: ·)

theorem standsFor_char (c : Char) : StandsFor (.char c) c := fun _ => rfl

/-- A code unit below the surrogates is read as its own character, whatever follows. -/
theorem standsFor_unit {c : Char} (h : c.toNat < 0xD800) : StandsFor (.unit c.toNat) c := by
  have hhigh : isHigh c.toNat = false := by
    simp only [isHigh, Bool.and_eq_false_iff, decide_eq_false_iff_not]
    exact Or.inl (by omega)
  have hlow : isLow c.toNat = false := by
    simp only [isLow, Bool.and_eq_false_iff, decide_eq_false_iff_not]
    exact Or.inl (by omega)
  intro rest
  cases rest with
  | nil => simp [join?, hhigh, hlow]
  | cons p rest => cases p <;> simp [join?, hhigh, hlow]

/-! ### Escapes -/

theorem hexValue?_hexDigit : ∀ n, n < 16 → hexValue? (hexDigit n) = some n := by decide

theorem hexDigit_ne_special : ∀ n, n < 16 → hexDigit n ≠ '"' ∧ hexDigit n ≠ '\\' := by decide

/-- Two hexadecimal digits after two zeros make a code unit. -/
theorem codeUnit?_hexDigit {n : Nat} (h : n < 256) :
    codeUnit? '0' '0' (hexDigit (n / 16)) (hexDigit (n % 16)) = some n := by
  have hzero : hexValue? '0' = some 0 := by decide
  unfold codeUnit?
  rw [hzero, hexValue?_hexDigit _ (by omega), hexValue?_hexDigit _ (by omega)]
  simp only [Option.bind_eq_bind, Option.bind_some]
  congr 1
  omega

theorem pieces?_short {c d : Char} (rest : List Char) (hd : d ≠ 'u')
    (h : shortEscape? d = some c) :
    pieces? ('\\' :: d :: rest) = (pieces? rest).map (.char c :: ·) := by
  rw [pieces?.eq_3 d rest fun _ _ _ _ _ hu _ => hd hu, h]
  cases pieces? rest <;> rfl

theorem exists_piece_short {c d : Char} (hd : d ≠ 'u') (h : shortEscape? d = some c) :
    ∃ p, StandsFor p c ∧
      ∀ rest, pieces? (['\\', d] ++ rest) = (pieces? rest).map (p :: ·) :=
  ⟨.char c, standsFor_char c, fun rest => pieces?_short rest hd h⟩

theorem pieces?_coded {n : Nat} (rest : List Char) (h : n < 256) :
    pieces? ('\\' :: 'u' :: '0' :: '0' :: hexDigit (n / 16) :: hexDigit (n % 16) :: rest)
      = (pieces? rest).map (.unit n :: ·) := by
  rw [pieces?.eq_2, codeUnit?_hexDigit h]
  cases pieces? rest <;> rfl

theorem pieces?_plain {c : Char} (rest : List Char) (hc : c ≠ '\\') (hs : ¬ c < ' ') :
    pieces? (c :: rest) = (pieces? rest).map (.char c :: ·) := by
  rw [pieces?.eq_4 c rest (fun _ _ _ _ _ h _ => hc h) fun _ _ h _ => hc h,
    if_neg (not_or.2 ⟨hc, hs⟩)]

/-- A written character is read as one piece, which stands for it. -/
theorem exists_piece_escape (c : Char) :
    ∃ p, StandsFor p c ∧
      ∀ rest, pieces? (escape c ++ rest) = (pieces? rest).map (p :: ·) := by
  -- the cases are those of `escape`
  unfold escape
  split
  · next h => subst h; exact exists_piece_short (by decide) rfl
  split
  · next h => subst h; exact exists_piece_short (by decide) rfl
  split
  · next h => subst h; exact exists_piece_short (by decide) rfl
  split
  · next h => subst h; exact exists_piece_short (by decide) rfl
  split
  · next h => subst h; exact exists_piece_short (by decide) rfl
  split
  · next h => subst h; exact exists_piece_short (by decide) rfl
  split
  · next h => subst h; exact exists_piece_short (by decide) rfl
  split
  · next hlt =>
    have hc : c.toNat < 32 := hlt
    exact ⟨_, standsFor_unit (by omega), fun rest => pieces?_coded rest (by omega)⟩
  · next hbackslash _ _ _ _ _ hlt =>
    exact ⟨_, standsFor_char c, fun rest => pieces?_plain rest hbackslash hlt⟩

/-- A character is written with a backslash, which takes the next one into the string, or
it stands for itself.  Nothing else in it could end the string. -/
theorem escape_cases (c : Char) :
    (∃ d ds, escape c = '\\' :: d :: ds ∧ ∀ e ∈ ds, e ≠ '"' ∧ e ≠ '\\') ∨
      (escape c = [c] ∧ c ≠ '"' ∧ c ≠ '\\') := by
  have hshort : ∀ d, ∃ d' ds, ['\\', d] = '\\' :: d' :: ds ∧ ∀ e ∈ ds, e ≠ '"' ∧ e ≠ '\\' :=
    fun d => ⟨d, [], rfl, by simp⟩
  unfold escape
  split
  · exact Or.inl (hshort _)
  split
  · exact Or.inl (hshort _)
  split
  · exact Or.inl (hshort _)
  split
  · exact Or.inl (hshort _)
  split
  · exact Or.inl (hshort _)
  split
  · exact Or.inl (hshort _)
  split
  · exact Or.inl (hshort _)
  split
  · next hlt =>
    have hc : c.toNat < 32 := hlt
    have hhigh := hexDigit_ne_special (c.toNat / 16) (by omega)
    have hlow := hexDigit_ne_special (c.toNat % 16) (by omega)
    refine Or.inl ⟨'u', _, rfl, ?_⟩
    simp only [List.mem_cons, List.not_mem_nil, or_false]
    rintro e (rfl | rfl | rfl | rfl)
    · decide
    · decide
    · exact hhigh
    · exact hlow
  · next hquote hbackslash _ _ _ _ _ _ => exact Or.inr ⟨rfl, hquote, hbackslash⟩

/-! ### Whole strings -/

theorem exists_pieces_flatMap_escape (cs : List Char) :
    ∃ ps, pieces? (cs.flatMap escape) = some ps ∧ join? ps = some cs := by
  induction cs with
  | nil => exact ⟨[], rfl, rfl⟩
  | cons c cs ih =>
    obtain ⟨ps, hps, hjoin⟩ := ih
    obtain ⟨p, hp, hpieces⟩ := exists_piece_escape c
    refine ⟨p :: ps, ?_, ?_⟩
    · rw [List.flatMap_cons, hpieces, hps]
      rfl
    · rw [hp, hjoin]
      rfl

/-- **The inside of a written string reads back as the string.** -/
theorem read?_escape (s : String) : read? (s.toList.flatMap escape) = some s := by
  obtain ⟨ps, hps, hjoin⟩ := exists_pieces_flatMap_escape s.toList
  unfold read?
  rw [hps, Option.bind_some, hjoin, Option.map_some, String.ofList_toList]

end Quoted

end Ocpp

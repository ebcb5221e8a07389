import Ocpp.Proofs.Json.Accuracy
import Ocpp.Proofs.Json.Compact

/-!
# Values read again

A value is read again from its compact text with everything in its place.  Only its numbers can
change: each of them is what its own numeral is read as, which for a whole number is the number
itself and for a binary64 number another one close by at worst.

## Main definitions

* `Number.reread` — the number that a numeral is read as.
* `Json.numbers` — the numbers in a value, in the order they are written in.
* `Json.mapNumbers` — the value with other numbers.

## Main results

* `Number.ofChars?_chars` — **every number is read from its numeral.**
* `Number.reread_float` — **a binary64 number keeps its sign, and its magnitude up to one part in
  `2 ^ 49` and four units.**
* `Json.read?_compact_eq` — **a value is read again up to its numbers, exactly when it is nested
  at most `maxDepth` levels deep.**
* `Json.mapNumbers_eq_self_iff` — when no number changes.
-/

namespace Ocpp

namespace Number

/-! ### Numbers read again -/

/-- The number that the numeral of a number is read as. -/
def reread (n : Number) : Number := (ofChars? n.chars).getD n

theorem reread_integer (n : Int) (fits : -2 ^ 63 ≤ n ∧ n < 2 ^ 64) :
    (integer n fits).reread = .integer n fits := by
  have hread : ofChars? (integer n fits).chars = some (.integer n fits) := readsBack_integer n fits
  rw [reread, hread, Option.getD_some]

/-- **A binary64 number comes back as one of the same sign and close by.** -/
theorem reread_float (x : Binary64) :
    ∃ y : Binary64, (float x).reread = .float y ∧ y.negative = x.negative ∧
      |y.magnitude.value - x.magnitude.value|
        ≤ x.magnitude.value / 2 ^ 49 + 4 * Magnitude.unit := by
  obtain ⟨m, hm⟩ := x.exists_magnitude?_numeral
  refine ⟨⟨x.negative, m⟩, ?_, rfl, Binary64.abs_sub_le_of_magnitude? hm⟩
  rw [reread, ofChars?_chars_float, hm, Option.map_some, Option.getD_some]

/-- **Every number is read from its numeral.** -/
theorem ofChars?_chars (n : Number) : ofChars? n.chars = some n.reread := by
  cases n with
  | integer n fits => rw [reread_integer]; exact readsBack_integer n fits
  | float x =>
    obtain ⟨m, hm⟩ := x.exists_magnitude?_numeral
    rw [reread, ofChars?_chars_float, hm, Option.map_some, Option.getD_some]

theorem readsBack_iff {n : Number} : n.ReadsBack ↔ n.reread = n := by
  unfold ReadsBack
  rw [ofChars?_chars, Option.some.injEq]

end Number

/-! ### Tokens -/

namespace Token

/-- The token with another number, if it is one. -/
def mapNumber (f : Number → Number) : Token → Token
  | .number n => .number (f n)
  | t => t

/-- The lexeme of a token is read as the token, up to a number. -/
theorem ofLexeme?_lexeme_eq (t : Token) : ofLexeme? t.lexeme = some (t.mapNumber Number.reread) := by
  cases t with
  | number n =>
    rw [lexeme, ofLexeme?_number, Number.ofChars?_chars]
    rfl
  | mark c => exact ofLexeme?_lexeme trivial
  | null => exact ofLexeme?_lexeme trivial
  | bool b => exact ofLexeme?_lexeme trivial
  | string s => exact ofLexeme?_lexeme trivial

theorem mapM_ofLexeme?_lexeme_eq (ts : List Token) :
    (ts.map lexeme).mapM ofLexeme? = some (ts.map (mapNumber Number.reread)) := by
  induction ts with
  | nil => rfl
  | cons t ts ih =>
    rw [List.map_cons, List.mapM_cons, ofLexeme?_lexeme_eq, ih]
    rfl

end Token

namespace Json

/-! ### The numbers in a value -/

mutual

/-- The numbers in a value, in the order they are written in. -/
def numbers : Json → List Number
  | .number n => [n]
  | .array items => itemNumbers items
  | .object members => memberNumbers members
  | _ => []

/-- The numbers in the items of an array. -/
def itemNumbers : List Json → List Number
  | [] => []
  | v :: items => v.numbers ++ itemNumbers items

/-- The numbers in the members of an object. -/
def memberNumbers : List (String × Json) → List Number
  | [] => []
  | (_, v) :: members => v.numbers ++ memberNumbers members

end

mutual

/-- The value with other numbers. -/
def mapNumbers (f : Number → Number) : Json → Json
  | .number n => .number (f n)
  | .array items => .array (mapItems f items)
  | .object members => .object (mapMembers f members)
  | v => v

/-- The items of an array with other numbers. -/
def mapItems (f : Number → Number) : List Json → List Json
  | [] => []
  | v :: items => v.mapNumbers f :: mapItems f items

/-- The members of an object with other numbers. -/
def mapMembers (f : Number → Number) : List (String × Json) → List (String × Json)
  | [] => []
  | (k, v) :: members => (k, v.mapNumbers f) :: mapMembers f members

end

variable (f : Number → Number)

theorem mapMembers_eq_map (members : List (String × Json)) :
    mapMembers f members = members.map fun p => (p.1, p.2.mapNumbers f) := by
  induction members with
  | nil => rfl
  | cons p members ih => obtain ⟨k, v⟩ := p; rw [mapMembers, ih]; rfl

/-- What is found under a key is what was found there, with other numbers. -/
theorem find?_mapMembers (members : Members) (key : String) :
    Keyed.find? (mapMembers f members) key = (Keyed.find? members key).map (mapNumbers f) := by
  induction members with
  | nil => rfl
  | cons p members ih =>
    obtain ⟨k, v⟩ := p
    rw [mapMembers, Keyed.find?_cons, Keyed.find?_cons, ih]
    split <;> rfl

mutual

theorem depth_mapNumbers : ∀ v : Json, (v.mapNumbers f).depth = v.depth
  | .null => rfl
  | .bool _ => rfl
  | .number _ => rfl
  | .string _ => rfl
  | .array items => by rw [mapNumbers, depth, depth, depthOfItems_mapItems items]
  | .object members => by rw [mapNumbers, depth, depth, depthOfMembers_mapMembers members]

theorem depthOfItems_mapItems : ∀ items : List Json,
    depthOfItems (mapItems f items) = depthOfItems items
  | [] => rfl
  | v :: items => by
    rw [mapItems, depthOfItems, depthOfItems, depth_mapNumbers v, depthOfItems_mapItems items]

theorem depthOfMembers_mapMembers : ∀ members : List (String × Json),
    depthOfMembers (mapMembers f members) = depthOfMembers members
  | [] => rfl
  | (k, v) :: members => by
    rw [mapMembers, depthOfMembers, depthOfMembers, depth_mapNumbers v,
      depthOfMembers_mapMembers members]

end

mutual

/-- A value with other numbers is written with other numbers, and the same otherwise. -/
theorem tokens_mapNumbers : ∀ v : Json, (v.mapNumbers f).tokens = v.tokens.map (Token.mapNumber f)
  | .null => rfl
  | .bool _ => rfl
  | .number _ => rfl
  | .string _ => rfl
  | .array [] => rfl
  | .array (v :: items) => by
    rw [mapNumbers, mapItems, tokens, tokens, tokens_mapNumbers v, itemTokens_mapItems items]
    simp [Token.mapNumber]
  | .object [] => rfl
  | .object ((k, v) :: members) => by
    rw [mapNumbers, mapMembers, tokens, tokens, tokens_mapNumbers v,
      memberTokens_mapMembers members]
    simp [Token.mapNumber]

theorem itemTokens_mapItems : ∀ items : List Json,
    itemTokens (mapItems f items) = (itemTokens items).map (Token.mapNumber f)
  | [] => rfl
  | v :: items => by
    rw [mapItems, itemTokens, itemTokens, tokens_mapNumbers v, itemTokens_mapItems items]
    simp [Token.mapNumber]

theorem memberTokens_mapMembers : ∀ members : List (String × Json),
    memberTokens (mapMembers f members) = (memberTokens members).map (Token.mapNumber f)
  | [] => rfl
  | (k, v) :: members => by
    rw [mapMembers, memberTokens, memberTokens, tokens_mapNumbers v,
      memberTokens_mapMembers members]
    simp [Token.mapNumber]

end

variable {f}

mutual

/-- The keys of a canonical value stay in order. -/
theorem Canonical.mapNumbers : ∀ {v : Json}, v.Canonical → (v.mapNumbers f).Canonical
  | .null, h => h
  | .bool _, h => h
  | .number _, _ => trivial
  | .string _, h => h
  | .array items, h => ⟨trivial, everywhereItems_mapItems items h.2⟩
  | .object members, h => by
    refine ⟨?_, everywhereMembers_mapMembers members h.2⟩
    have hordered : Keyed.Ordered members := h.1
    change Keyed.Ordered (mapMembers f members)
    rw [mapMembers_eq_map]
    exact List.pairwise_map.2 hordered

theorem everywhereItems_mapItems : ∀ items : List Json, EverywhereItems IsOrdered items →
    EverywhereItems IsOrdered (mapItems f items)
  | [], _ => trivial
  | _ :: items, h => ⟨Canonical.mapNumbers h.1, everywhereItems_mapItems items h.2⟩

theorem everywhereMembers_mapMembers : ∀ members : List (String × Json),
    EverywhereMembers IsOrdered members → EverywhereMembers IsOrdered (mapMembers f members)
  | [], _ => trivial
  | (_, _) :: members, h => ⟨Canonical.mapNumbers h.1, everywhereMembers_mapMembers members h.2⟩

end

mutual

/-- **A value stays what it is if each of its numbers does.** -/
theorem mapNumbers_eq_self_iff : ∀ v : Json, v.mapNumbers f = v ↔ ∀ n ∈ v.numbers, f n = n
  | .null => by simp [mapNumbers, numbers]
  | .bool _ => by simp [mapNumbers, numbers]
  | .number _ => by simp [mapNumbers, numbers]
  | .string _ => by simp [mapNumbers, numbers]
  | .array items => by
    rw [mapNumbers, Json.array.injEq, mapItems_eq_self_iff items, numbers]
  | .object members => by
    rw [mapNumbers, Json.object.injEq, mapMembers_eq_self_iff members, numbers]

theorem mapItems_eq_self_iff : ∀ items : List Json,
    mapItems f items = items ↔ ∀ n ∈ itemNumbers items, f n = n
  | [] => by simp [mapItems, itemNumbers]
  | v :: items => by
    rw [mapItems, List.cons.injEq, mapNumbers_eq_self_iff v, mapItems_eq_self_iff items,
      itemNumbers, List.forall_mem_append]

theorem mapMembers_eq_self_iff : ∀ members : List (String × Json),
    mapMembers f members = members ↔ ∀ n ∈ memberNumbers members, f n = n
  | [] => by simp [mapMembers, memberNumbers]
  | (k, v) :: members => by
    rw [mapMembers, List.cons.injEq, Prod.mk.injEq, mapNumbers_eq_self_iff v,
      mapMembers_eq_self_iff members, memberNumbers, List.forall_mem_append]
    simp

end

/-! ### The compact text -/

/-- **A value is read again up to its numbers**, and up to the order of members, exactly when it
is nested at most `maxDepth` levels deep. -/
theorem read?_compact_eq (v : Json) :
    read? v.compact
      = if v.depth ≤ maxDepth then some (v.mapNumbers Number.reread).sorted else none := by
  unfold read? readChars? compact Token.scan?
  rw [String.toList_ofList, scan?_compactChars, Option.bind_some, Token.mapM_ofLexeme?_lexeme_eq,
    Option.bind_some, ← tokens_mapNumbers, ofTokens?_tokens, depth_mapNumbers]

/-- The form of a number is kept, so a value that is read again is of the same kind. -/
theorem kind_mapNumbers_reread (v : Json) : (v.mapNumbers Number.reread).kind = v.kind := by
  cases v with
  | number n =>
    cases n with
    | integer n fits => rw [mapNumbers, Number.reread_integer]
    | float x =>
      obtain ⟨y, hy, -⟩ := Number.reread_float x
      rw [mapNumbers, hy]
      rfl
  | _ => rfl

end Json

end Ocpp

import Ocpp.Json.Printer
import Ocpp.Json.Reader
import Ocpp.Proofs.Json.Shape

/-!
# Reading the tokens of a value

The reading machine, given the tokens of a value, comes to that value with the members
of its objects in key order, as long as the containers still fit on its stack.  What
it reads from any tokens at all is canonical and fits on it.

## Main definitions

* `Json.Readable` — a value may stand inside so many containers.
* `Json.Reading.Readable` — so may what the machine has read so far, each part where it stands.

## Main results

* `Json.Reading.run?_tokens` — the machine over the tokens of one value.
* `Json.ofTokens?_tokens` — **the tokens of a value read back exactly when it is nested
  at most `maxDepth` levels deep.**
* `Json.Reading.readable_step`, `Json.Reading.readable_run` — one token keeps what is read in
  order, and so does a whole run.
* `Json.readable_of_read?` — **every value that is read is canonical, and nested at most
  `maxDepth` levels deep.**
-/

namespace Ocpp

namespace Json

namespace Reading

/-! ### The tokens of one value -/

/-- A container opens when there is room on the stack. -/
theorem run?_open_array (around : List Container) (ts : List Token) :
    run? (.value around) (.mark '[' :: ts)
      = if around.length < maxDepth then run? (.firstItem around) ts else none := by
  rw [run?, step?, startValue?]
  split <;> rfl

theorem run?_open_object (around : List Container) (ts : List Token) :
    run? (.value around) (.mark '{' :: ts)
      = if around.length < maxDepth then run? (.firstKey around) ts else none := by
  rw [run?, step?, startValue?]
  split <;> rfl

/-- The tokens of a value start with one that does not close an array. -/
theorem exists_tokens_eq_cons (v : Json) :
    ∃ t ts, v.tokens = t :: ts ∧ t ≠ Token.mark ']' := by
  cases v with
  | null => exact ⟨_, _, rfl, nofun⟩
  | bool b => exact ⟨_, _, rfl, nofun⟩
  | number n => exact ⟨_, _, rfl, nofun⟩
  | string s => exact ⟨_, _, rfl, nofun⟩
  | array items =>
    cases items with
    | nil => exact ⟨_, _, rfl, by decide⟩
    | cons v items => exact ⟨_, _, rfl, by decide⟩
  | object members =>
    cases members with
    | nil => exact ⟨_, _, rfl, by decide⟩
    | cons p members => exact ⟨_, _, rfl, by decide⟩

/-- The first item of an array is read like any value. -/
theorem run?_firstItem (around : List Container) (v : Json) (ts : List Token) :
    run? (.firstItem around) (v.tokens ++ ts)
      = run? (.value (.array [] :: around)) (v.tokens ++ ts) := by
  obtain ⟨t, us, htokens, ht⟩ := exists_tokens_eq_cons v
  have hstep : step? (.firstItem around) t = startValue? (.array [] :: around) t := if_neg ht
  rw [htokens, List.cons_append, run?, run?, hstep, step?]

/-- A member of an object is read up to its value. -/
theorem run?_firstKey (around : List Container) (k : String) (ts : List Token) :
    run? (.firstKey around) (.string k :: .mark ':' :: ts)
      = run? (.value (.object [] k :: around)) ts := rfl

theorem run?_member (w : Json) (read : Members) (k k' : String) (outer : List Container)
    (ts : List Token) :
    run? (.after w (.object read k :: outer)) (.mark ',' :: .string k' :: .mark ':' :: ts)
      = run? (.value (.object (Keyed.insert read k w) k' :: outer)) ts := rfl

mutual

/-- **The machine over the tokens of a value.**  It comes to the value with its members
in key order, and gives up where a container has no more room on the stack. -/
theorem run?_tokens : ∀ (v : Json) (around : List Container) (rest : List Token),
    around.length ≤ maxDepth →
      run? (.value around) (v.tokens ++ rest)
        = if around.length + v.depth ≤ maxDepth then run? (.after v.sorted around) rest else none
  | .null, around, rest, h => (if_pos h).symm
  | .bool b, around, rest, h => (if_pos h).symm
  | .number n, around, rest, h => (if_pos h).symm
  | .string s, around, rest, h => (if_pos h).symm
  | .array [], around, rest, h => by
    rw [tokens, List.cons_append, run?_open_array, depth, depthOfItems]
    rfl
  | .array (v :: items), around, rest, h => by
    rw [tokens, List.cons_append, run?_open_array, depth, depthOfItems]
    by_cases hroom : around.length < maxDepth
    · -- the array is open: its first item, then the further ones up to the bracket
      rw [if_pos hroom, List.append_assoc, run?_firstItem,
        run?_tokens v _ _ (by rw [List.length_cons]; omega), List.length_cons]
      by_cases hv : around.length + 1 + v.depth ≤ maxDepth
      · rw [if_pos hv, List.append_assoc, List.singleton_append,
          run?_itemTokens items v.sorted [] around rest hroom]
        by_cases hitems : around.length + 1 + depthOfItems items ≤ maxDepth
        · rw [if_pos hitems, if_pos (by omega)]
          rfl
        · rw [if_neg hitems, if_neg (by omega)]
      · rw [if_neg hv, if_neg (by omega)]
    · rw [if_neg hroom, if_neg (by omega)]
  | .object [], around, rest, h => by
    rw [tokens, List.cons_append, run?_open_object, depth, depthOfMembers]
    rfl
  | .object ((k, v) :: members), around, rest, h => by
    rw [tokens, List.cons_append, run?_open_object, depth, depthOfMembers]
    by_cases hroom : around.length < maxDepth
    · rw [if_pos hroom, List.cons_append, List.cons_append, run?_firstKey, List.append_assoc,
        run?_tokens v _ _ (by rw [List.length_cons]; omega), List.length_cons]
      by_cases hv : around.length + 1 + v.depth ≤ maxDepth
      · rw [if_pos hv, List.append_assoc, List.singleton_append,
          run?_memberTokens members v.sorted [] k around rest hroom]
        by_cases hmembers : around.length + 1 + depthOfMembers members ≤ maxDepth
        · rw [if_pos hmembers, if_pos (by omega)]
          rfl
        · rw [if_neg hmembers, if_neg (by omega)]
      · rw [if_neg hv, if_neg (by omega)]
    · rw [if_neg hroom, if_neg (by omega)]

/-- The machine over the further items of an array, up to the bracket that closes it. -/
theorem run?_itemTokens : ∀ (items : List Json) (w : Json) (read : List Json)
    (outer : List Container) (rest : List Token), outer.length < maxDepth →
      run? (.after w (.array read :: outer)) (itemTokens items ++ .mark ']' :: rest)
        = if outer.length + 1 + depthOfItems items ≤ maxDepth then
            run? (.after (.array (read.reverse ++ w :: sortedItems items)) outer) rest
          else none
  | [], w, read, outer, rest, h => by
    rw [itemTokens, List.nil_append, depthOfItems, if_pos (by omega), sortedItems,
      ← List.reverse_cons]
    rfl
  | v :: items, w, read, outer, rest, h => by
    rw [itemTokens, List.cons_append, List.append_assoc, run?]
    change run? (.value (.array (w :: read) :: outer)) _ = _
    rw [run?_tokens v _ _ (by rw [List.length_cons]; omega), List.length_cons, depthOfItems]
    by_cases hv : outer.length + 1 + v.depth ≤ maxDepth
    · rw [if_pos hv, run?_itemTokens items v.sorted (w :: read) outer rest h]
      by_cases hitems : outer.length + 1 + depthOfItems items ≤ maxDepth
      · rw [if_pos hitems, if_pos (by omega), List.reverse_cons, List.append_assoc,
          List.singleton_append, sortedItems]
      · rw [if_neg hitems, if_neg (by omega)]
    · rw [if_neg hv, if_neg (by omega)]

/-- The machine over the further members of an object, up to the brace that closes it. -/
theorem run?_memberTokens : ∀ (members : List (String × Json)) (w : Json) (read : Members)
    (k : String) (outer : List Container) (rest : List Token), outer.length < maxDepth →
      run? (.after w (.object read k :: outer)) (memberTokens members ++ .mark '}' :: rest)
        = if outer.length + 1 + depthOfMembers members ≤ maxDepth then
            run? (.after (.object ((sortedMembers members).foldl
              (fun table p => Keyed.insert table p.1 p.2) (Keyed.insert read k w))) outer) rest
          else none
  | [], w, read, k, outer, rest, h => by
    rw [memberTokens, List.nil_append, depthOfMembers, if_pos (by omega)]
    rfl
  | (k', v) :: members, w, read, k, outer, rest, h => by
    rw [memberTokens, List.cons_append, List.cons_append, List.cons_append, run?_member,
      List.append_assoc, run?_tokens v _ _ (by rw [List.length_cons]; omega), List.length_cons,
      depthOfMembers]
    by_cases hv : outer.length + 1 + v.depth ≤ maxDepth
    · rw [if_pos hv, run?_memberTokens members v.sorted _ k' outer rest h]
      by_cases hmembers : outer.length + 1 + depthOfMembers members ≤ maxDepth
      · rw [if_pos hmembers, if_pos (by omega), sortedMembers, List.foldl_cons]
      · rw [if_neg hmembers, if_neg (by omega)]
    · rw [if_neg hv, if_neg (by omega)]

end

end Reading

/-- **The tokens of a value read back exactly when it is nested at most `maxDepth` levels
deep.**  Members come back in key order. -/
theorem ofTokens?_tokens (v : Json) :
    ofTokens? v.tokens = if v.depth ≤ maxDepth then some v.sorted else none := by
  have h := Reading.run?_tokens v [] [] (Nat.zero_le _)
  rw [List.append_nil, List.length_nil, Nat.zero_add] at h
  unfold ofTokens?
  rw [h]
  split <;> rfl

/-! ### What is read is canonical and not too deep -/

/-- The value may stand inside so many containers: it is canonical, and with those around it the
containers in it still fit on the stack. -/
structure Readable (v : Json) (level : Nat) : Prop where
  canonical : v.Canonical
  depth_le : level + v.depth ≤ maxDepth

/-- A container may stand where there is room for it, and for what is in it one level further in. -/
theorem readable_iff_of_depth_eq_succ {v : Json} {n level : Nat} (hv : v.depth = n + 1) :
    v.Readable level ↔ level < maxDepth ∧ v.Canonical ∧ n ≤ maxDepth - (level + 1) := by
  constructor
  · rintro ⟨hcanonical, hle⟩
    rw [hv] at hle
    exact ⟨by omega, hcanonical, by omega⟩
  · rintro ⟨hlevel, hcanonical, hle⟩
    exact ⟨hcanonical, by rw [hv]; omega⟩

theorem readable_succ_iff {v : Json} {level : Nat} (hlevel : level < maxDepth) :
    v.Readable (level + 1) ↔ v.Canonical ∧ v.depth ≤ maxDepth - (level + 1) := by
  constructor
  · rintro ⟨hcanonical, hle⟩
    exact ⟨hcanonical, by omega⟩
  · rintro ⟨hcanonical, hle⟩
    exact ⟨hcanonical, by omega⟩

theorem readable_array_iff {items : List Json} {level : Nat} :
    (Json.array items).Readable level ↔
      level < maxDepth ∧ ∀ v ∈ items, v.Readable (level + 1) := by
  rw [readable_iff_of_depth_eq_succ rfl]
  refine and_congr_right fun hlevel => ?_
  simp only [readable_succ_iff hlevel, canonical_array_iff, depthOfItems_le_iff, imp_and, forall_and]

theorem readable_object_iff {members : Members} {level : Nat} :
    (Json.object members).Readable level ↔
      level < maxDepth ∧ Keyed.Ordered members ∧ ∀ p ∈ members, p.2.Readable (level + 1) := by
  rw [readable_iff_of_depth_eq_succ rfl]
  refine and_congr_right fun hlevel => ?_
  simp only [readable_succ_iff hlevel, canonical_object_iff, depthOfMembers_le_iff, imp_and,
    forall_and, and_assoc]

theorem readable_array_nil {level : Nat} (hlevel : level < maxDepth) :
    (Json.array []).Readable level :=
  readable_array_iff.2 ⟨hlevel, List.forall_mem_nil _⟩

theorem readable_object_nil {level : Nat} (hlevel : level < maxDepth) :
    (Json.object []).Readable level :=
  readable_object_iff.2 ⟨hlevel, List.Pairwise.nil, List.forall_mem_nil _⟩

theorem Readable.array_cons {v : Json} {items : List Json} {level : Nat}
    (hv : v.Readable (level + 1)) (h : (Json.array items).Readable level) :
    (Json.array (v :: items)).Readable level := by
  rw [readable_array_iff] at h ⊢
  exact ⟨h.1, List.forall_mem_cons.2 ⟨hv, h.2⟩⟩

theorem Readable.array_reverse {items : List Json} {level : Nat}
    (h : (Json.array items).Readable level) : (Json.array items.reverse).Readable level := by
  rw [readable_array_iff] at h ⊢
  exact ⟨h.1, fun v hv => h.2 v (List.mem_reverse.1 hv)⟩

theorem Readable.object_insert {members : Members} {k : String} {v : Json} {level : Nat}
    (hv : v.Readable (level + 1)) (h : (Json.object members).Readable level) :
    (Json.object (Keyed.insert members k v)).Readable level := by
  rw [readable_object_iff] at h ⊢
  refine ⟨h.1, h.2.1.insert k v, fun p hp => ?_⟩
  rcases Keyed.mem_insert hp with rfl | hp
  · exact hv
  · exact h.2.2 p hp

/-- What has been read of a container may stand inside so many others. -/
def Container.Readable : Container → Nat → Prop
  | .array read, level => (Json.array read).Readable level
  | .object read _, level => (Json.object read).Readable level

/-- What has been read of each of the containers may stand inside those around it. -/
def AllReadable : List Container → Prop
  | [] => True
  | c :: outer => c.Readable outer.length ∧ AllReadable outer

theorem AllReadable.length_le {around : List Container} (h : AllReadable around) :
    around.length ≤ maxDepth := by
  cases around with
  | nil => exact Nat.zero_le _
  | cons c outer =>
    have hlevel : outer.length < maxDepth := by
      cases c with
      | array read => exact (readable_array_iff.1 h.1).1
      | object read k => exact (readable_object_iff.1 h.1).1
    exact hlevel

namespace Reading

/-- What the machine has read so far may stand where it does. -/
def Readable : Reading → Prop
  | .value around => AllReadable around
  | .firstItem around | .firstKey around => around.length < maxDepth ∧ AllReadable around
  | .key read around | .colon read _ around =>
    (Json.object read).Readable around.length ∧ AllReadable around
  | .after v around => v.Readable around.length ∧ AllReadable around

theorem readable_startValue {around : List Container} {t : Token} {next : Reading}
    (h : AllReadable around) (hs : startValue? around t = some next) : next.Readable := by
  have hscalar : ∀ v : Json, v.Canonical → v.depth = 0 → v.Readable around.length := fun v hv hd =>
    ⟨hv, by rw [hd]; exact h.length_le⟩
  cases t with
  | null => cases hs; exact ⟨hscalar _ trivial rfl, h⟩
  | bool b => cases hs; exact ⟨hscalar _ trivial rfl, h⟩
  | number n => cases hs; exact ⟨hscalar _ trivial rfl, h⟩
  | string s => cases hs; exact ⟨hscalar _ trivial rfl, h⟩
  | mark c =>
    simp only [startValue?] at hs
    split at hs
    · next hroom =>
      split at hs
      · cases hs; exact ⟨hroom, h⟩
      · split at hs
        · cases hs; exact ⟨hroom, h⟩
        · cases hs
    · cases hs

theorem readable_afterValue {v : Json} {around : List Container} {t : Token} {next : Reading}
    (hv : v.Readable around.length) (h : AllReadable around)
    (hs : afterValue? v around t = some next) : next.Readable := by
  unfold afterValue? at hs
  split at hs
  · split at hs
    · next read outer =>
      -- inside an array: the value joins the items read so far
      obtain ⟨hread, houter⟩ := h
      have harray : (Json.array (v :: read)).Readable outer.length := hv.array_cons hread
      split at hs
      · cases hs; exact ⟨harray, houter⟩
      · split at hs
        · cases hs; exact ⟨harray.array_reverse, houter⟩
        · cases hs
    · next read k outer =>
      -- inside an object: the value is stored under its key
      obtain ⟨hread, houter⟩ := h
      have hobject : (Json.object (Keyed.insert read k v)).Readable outer.length :=
        hv.object_insert hread
      split at hs
      · cases hs; exact ⟨hobject, houter⟩
      · split at hs
        · cases hs; exact ⟨hobject, houter⟩
        · cases hs
    · cases hs
  · cases hs

/-- One token keeps what has been read in order. -/
theorem readable_step {state next : Reading} {t : Token} (h : state.Readable)
    (hs : step? state t = some next) : next.Readable := by
  unfold step? at hs
  split at hs
  · exact readable_startValue h hs
  · split at hs
    · cases hs; exact ⟨readable_array_nil h.1, h.2⟩
    · have hopen : AllReadable (.array [] :: _) := ⟨readable_array_nil h.1, h.2⟩
      exact readable_startValue hopen hs
  · split at hs
    · cases hs; exact ⟨readable_object_nil h.1, h.2⟩
    · cases hs
  · cases hs; exact ⟨readable_object_nil h.1, h.2⟩
  · cases hs; exact h
  · split at hs
    · cases hs; exact h
    · cases hs
  · exact readable_afterValue h.1 h.2 hs
  · cases hs

/-- A whole run keeps what has been read in order. -/
theorem readable_run {state last : Reading} {ts : List Token} (h : state.Readable)
    (hr : run? state ts = some last) : last.Readable := by
  induction ts generalizing state with
  | nil => cases hr; exact h
  | cons t ts ih =>
    rw [run?, Option.bind_eq_some_iff] at hr
    obtain ⟨next, hs, hr⟩ := hr
    exact ih (readable_step h hs) hr

end Reading

/-- **Every value that is read from text is canonical, and nested at most `maxDepth` levels
deep.** -/
theorem readable_of_read? {text : String} {v : Json} (h : read? text = some v) : v.Readable 0 := by
  unfold read? readChars? at h
  obtain ⟨ts, -, h⟩ := Option.bind_eq_some_iff.1 h
  unfold ofTokens? at h
  obtain ⟨last, hr, h⟩ := Option.bind_eq_some_iff.1 h
  have hstart : (Reading.value []).Readable := trivial
  have hlast := Reading.readable_run hstart hr
  cases last with
  | after w around =>
    cases around with
    | nil => cases h; exact hlast.1
    | cons c around => cases h
  | _ => cases h

end Json

end Ocpp

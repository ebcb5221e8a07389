import Ocpp.Json.Basic

/-!
# Equal JSON values

Two values count as equal when they are the same up to the signs of their zeros.  Where a
value holds no binary64 number at its top, what is equal to it has its form.

## Main results

* `Json.sameValue_self` — a value is equal to itself.
* `Json.sameValue_integer_iff`, `Json.sameValue_string_iff` — whole numbers and strings are
  equal to themselves alone.
* `Json.sameValue_array_iff` — arrays are compared item by item.
-/

namespace Ocpp

/-- Every number is equal to itself. -/
theorem Number.sameValue_self (n : Number) : n.sameValue n = true := by
  cases n with
  | integer n fits => exact beq_self_eq_true n
  | float x => simp [sameValue, Binary64.sameValue]

namespace Json

variable {v : Json}

mutual

/-- Every value is equal to itself. -/
theorem sameValue_self : ∀ v : Json, v.sameValue v = true
  | .null => rfl
  | .bool b => by simp [sameValue]
  | .number n => by simp [sameValue, n.sameValue_self]
  | .string s => by simp [sameValue]
  | .array items => by simp [sameValue, sameItems_self items]
  | .object members => by simp [sameValue, sameMembers_self members]

theorem sameItems_self : ∀ items : List Json, sameItems items items = true
  | [] => rfl
  | v :: items => by simp [sameItems, sameValue_self v, sameItems_self items]

theorem sameMembers_self : ∀ members : List (String × Json), sameMembers members members = true
  | [] => rfl
  | (k, v) :: members => by simp [sameMembers, sameValue_self v, sameMembers_self members]

end

/-- A whole number is equal to itself alone. -/
@[simp] theorem sameValue_integer_iff {n : Int} {fits : -2 ^ 63 ≤ n ∧ n < 2 ^ 64} :
    (Json.number (.integer n fits)).sameValue v = true ↔ v = .number (.integer n fits) := by
  rw [eq_comm (b := Json.number _)]
  cases v with
  | number m => cases m <;> simp [sameValue, Number.sameValue]
  | _ => simp [sameValue]

/-- A string is equal to itself alone. -/
@[simp] theorem sameValue_string_iff {s : String} :
    (Json.string s).sameValue v = true ↔ v = .string s := by
  rw [eq_comm (b := Json.string _)]
  cases v <;> simp [sameValue]

/-- What is equal to an array is an array whose items are equal. -/
@[simp] theorem sameValue_array_iff {items : List Json} :
    (Json.array items).sameValue v = true ↔
      ∃ others, v = .array others ∧ sameItems items others = true := by
  cases v <;> simp [sameValue]

@[simp] theorem sameItems_nil_iff {others : List Json} :
    sameItems [] others = true ↔ others = [] := by
  cases others <;> simp [sameItems]

@[simp] theorem sameItems_cons_iff {items others : List Json} :
    sameItems (v :: items) others = true ↔ ∃ other rest, others = other :: rest ∧
      v.sameValue other = true ∧ sameItems items rest = true := by
  cases others with
  | nil => simp [sameItems]
  | cons other rest =>
    rw [sameItems, Bool.and_eq_true]
    constructor
    · intro h
      exact ⟨other, rest, rfl, h⟩
    · rintro ⟨_, _, heq, h⟩
      cases heq
      exact h

end Json

end Ocpp

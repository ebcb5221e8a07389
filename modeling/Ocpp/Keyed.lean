/-!
# Association lists in key order

Tables from text keys to values, kept as lists of pairs in strictly increasing key
order.  Keys are compared code point by code point, which orders them like their
UTF-8 bytes.

## Main definitions

* `Keyed α` — a list of keyed values.
* `Keyed.find?`, `Keyed.insert` — look-up, and insertion that replaces.
* `Keyed.ofList pairs` — the table of a list of pairs, the last one of a key winning.
-/

namespace Ocpp

/-- Values with text keys. -/
abbrev Keyed (α : Type) := List (String × α)

namespace Keyed

variable {α : Type}

/-- The value stored under a key. -/
def find? (table : Keyed α) (key : String) : Option α := table.lookup key

/-- The table with `value` stored under `key`, in its place, in place of what was
stored there. -/
def insert (table : Keyed α) (key : String) (value : α) : Keyed α :=
  match table with
  | [] => [(key, value)]
  | (k, v) :: rest =>
    if key < k then (key, value) :: (k, v) :: rest
    else if key = k then (key, value) :: rest
    else (k, v) :: insert rest key value

/-- The table of a list of pairs.  Of several pairs with one key the last counts. -/
def ofList (pairs : List (String × α)) : Keyed α :=
  pairs.foldl (fun table p => insert table p.1 p.2) []

/-- The keys, in order. -/
def keys (table : Keyed α) : List String := table.map Prod.fst

end Keyed

end Ocpp

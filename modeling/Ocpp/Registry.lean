import Ocpp.Catalog.V16
import Ocpp.Catalog.V201
import Ocpp.Catalog.V21
import Ocpp.Error

/-!
# The registry of schemas

All schemas of all generations, found by direction, action and generation.  There
is no falling back from one generation to another.

## Main definitions

* `Registry` — a list of catalogs; `registry` holds those of the protocol.
* `Registry.lookup`, `Registry.lookupVersion` — the schema of an action.
* `Registry.actions` — the actions of a generation, sorted.
-/

namespace Ocpp

/-- The catalogs of the generations, oldest first. -/
structure Registry where
  catalogs : List Catalog

namespace Registry

/-- The schemas of one direction of a generation.  A generation entered twice has
the later catalog. -/
def schemas (r : Registry) (d : Direction) (version : Version) : Keyed Schema :=
  match r.catalogs.reverse.find? fun c => c.version == version with
  | some c => c.schemas d
  | none => []

/-- The schema of an action, when the generation defines it. -/
def find? (r : Registry) (d : Direction) (action : String) (version : Version) :
    Option Schema :=
  Keyed.find? (r.schemas d version) action

/-- The schema of an action under a negotiated protocol name.  An unknown name is
treated like an unknown action. -/
def lookup (r : Registry) (d : Direction) (action protocol : String) :
    Except UnsupportedAction Schema :=
  match (Version.ofProtocol? protocol).bind (r.find? d action) with
  | some schema => .ok schema
  | none => .error ⟨action, protocol⟩

/-- The schema of an action of a known generation. -/
def lookupVersion (r : Registry) (d : Direction) (action : String) (version : Version) :
    Except UnsupportedAction Schema :=
  match r.find? d action version with
  | some schema => .ok schema
  | none => .error ⟨action, version.protocol⟩

/-- Whether a generation defines an action. -/
def supports (r : Registry) (d : Direction) (action : String) (version : Version) : Bool :=
  (r.find? d action version).isSome

/-- The actions of a generation, sorted by name. -/
def actions (r : Registry) (d : Direction) (version : Version) : List String :=
  Keyed.keys (r.schemas d version)

/-- How many schemas there are for a direction, over all generations. -/
def size (r : Registry) (d : Direction) : Nat :=
  (Version.all.flatMap (r.schemas d)).length

/-- Whether no generation is entered. -/
def isEmpty (r : Registry) : Bool := r.catalogs.isEmpty

end Registry

/-- The registry of the protocol. -/
def registry : Registry where
  catalogs := [.ofRows .v16 Catalog.V16.rows, .ofRows .v201 Catalog.V201.rows,
    .ofRows .v21 Catalog.V21.rows]

end Ocpp

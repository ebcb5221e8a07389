import Ocpp.Text.Blank

/-!
# Protocol generations

The generations of the protocol, and the names they go by on a connection.

## Main definitions

* `Version` — a generation.
* `Version.ofProtocol?` — the generation a negotiated name stands for.
-/

namespace Ocpp

/-- A generation of the protocol.  Each has action tables of its own. -/
inductive Version where
  | v16
  | v201
  | v21
deriving DecidableEq

namespace Version

/-- All generations, newest first. -/
def all : List Version := [.v21, .v201, .v16]

/-- The name negotiated when a connection is opened. -/
def protocol : Version → String
  | .v16 => "ocpp1.6"
  | .v201 => "ocpp2.0.1"
  | .v21 => "ocpp2.1"

/-- The number of the generation, as people write it. -/
def number : Version → String
  | .v16 => "1.6"
  | .v201 => "2.0.1"
  | .v21 => "2.1"

/-- The full name of the generation. -/
def title (v : Version) : String := "OCPP " ++ v.number

/-- The place of the generation in time. -/
def age : Version → Nat
  | .v16 => 0
  | .v201 => 1
  | .v21 => 2

/-- Whether a generation came after another. -/
def isNewerThan (v w : Version) : Bool := w.age < v.age

/-- The generation of a negotiated name, blanks around it aside. -/
def ofProtocol? (name : String) : Option Version :=
  let trimmed := Text.trim name
  all.find? fun v => v.protocol == trimmed

/-- A name that stands for no generation. -/
structure Unknown where
  /-- The name as it was given. -/
  name : String
deriving DecidableEq

/-- What is said of an unknown name. -/
def Unknown.message (u : Unknown) : String := s!"unknown OCPP protocol version '{u.name}'"

/-- The generation of a negotiated name, or the reason there is none. -/
def read (name : String) : Except Unknown Version :=
  match ofProtocol? name with
  | some v => .ok v
  | none => .error ⟨name⟩

end Version

end Ocpp

import Ocpp.Schema

/-!
# Catalogs

The schemas of one generation, made from the table of its actions.

## Main definitions

* `ActionRow` — a row of the table: an action and its required fields.
* `Catalog` — the schemas of a generation, by action, for either direction.
* `Catalog.ofRows` — the catalog of a table.
-/

namespace Ocpp

/-- An action, with the required fields of its request and of its response. -/
structure ActionRow where
  action : String
  request : Required
  response : Required

/-- The required fields of a row for one direction. -/
def ActionRow.required (row : ActionRow) : Direction → Required
  | .request => row.request
  | .response => row.response

/-- The schemas of one generation, in the order of the actions' names. -/
structure Catalog where
  version : Version
  requests : Keyed Schema
  responses : Keyed Schema

namespace Catalog

/-- The schemas of one direction that a table declares.  Of several rows for one
action the last counts. -/
def schemasOfRows (version : Version) (rows : List ActionRow) (d : Direction) : Keyed Schema :=
  Keyed.ofList (rows.map fun row => (row.action, ⟨d, version, row.action, row.required d⟩))

/-- The catalog of a table. -/
def ofRows (version : Version) (rows : List ActionRow) : Catalog where
  version := version
  requests := schemasOfRows version rows .request
  responses := schemasOfRows version rows .response

/-- The schemas of one direction. -/
def schemas (c : Catalog) : Direction → Keyed Schema
  | .request => c.requests
  | .response => c.responses

end Catalog

end Ocpp

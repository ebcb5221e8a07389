/-!
# TOML documents

The tables that a TOML document builds up, with the rules on what may be defined
twice.

## Main definitions

* `Toml.Item` — a value or a table; entries keep the order of the document.
* `Toml.Statement` — a line of a document that says something.
* `Toml.build?` — the root table of a row of statements.
-/

namespace Ocpp

namespace Toml

/-- How a table has come into being, which decides on what may be added to it. -/
inductive Origin where
  /-- By a header of its own. -/
  | header
  /-- By the header of a table inside it. -/
  | path
  /-- By a dotted key. -/
  | dotted
  /-- As a value in braces. -/
  | inline
deriving DecidableEq

/-- A value or a table.  Of numbers and moments only the form is kept. -/
inductive Item where
  | string (s : String)
  | boolean (b : Bool)
  | integer
  | float
  /-- A date, a time of day, or both. -/
  | moment
  | array (items : List Item)
  | table (origin : Origin) (entries : List (String × Item))
  /-- The tables of a repeated header, each with its entries. -/
  | tables (rows : List (List (String × Item)))

/-- The entries of a table in the order of the document. -/
abbrev Entries := List (String × Item)

/-- A line of a document that says something. -/
inductive Statement where
  /-- `path.key = value`. -/
  | assign (path : List String) (key : String) (value : Item)
  /-- `[path.key]`. -/
  | header (path : List String) (key : String)
  /-- `[[path.key]]`. -/
  | arrayHeader (path : List String) (key : String)

/-- The entries with the value of a key replaced. -/
def replace (entries : Entries) (key : String) (item : Item) : Entries :=
  entries.map fun e => if e.1 = key then (key, item) else e

/-- Changes the table that a path leads to, making the tables on the way.  A path of
dotted keys does not lead into a table that has a header of its own; no path leads
into a value.  Of a repeated header it leads into the last table. -/
def modifyAt? (dotted : Bool) (change : Origin → Entries → Option Entries)
    (origin : Origin) (entries : Entries) : List String → Option Entries
  | [] => change origin entries
  | k :: path =>
    match entries.lookup k with
    | none => do
      let made := if dotted then Origin.dotted else .path
      let inner ← modifyAt? dotted change made [] path
      some (entries ++ [(k, .table made inner)])
    | some (.table o inner) => do
      if o = .inline ∨ (dotted ∧ o = .header) then none
      else some (replace entries k (.table o (← modifyAt? dotted change o inner path)))
    | some (.tables rows) => do
      let last ← rows.getLast?
      let inner ← modifyAt? dotted change .header last path
      some (replace entries k (.tables (rows.dropLast ++ [inner])))
    | some _ => none

/-- Adds `path.key = value` to a table.  The key must be new; and the table that it
goes into is made by dotted keys exactly if the path is not empty. -/
def assign? (entries : Entries) (path : List String) (key : String) (value : Item) :
    Option Entries :=
  modifyAt? true (fun origin inner =>
    if decide (origin = .dotted) = path.isEmpty then none
    else if (inner.lookup key).isSome then none
    else some (inner ++ [(key, value)])) .header entries path

/-- Opens the table of a header.  A table that so far was only on the way to others
may be given its header; it then counts as defined here. -/
def open? (entries : Entries) (path : List String) (key : String) : Option Entries :=
  modifyAt? false (fun _ inner =>
    match inner.lookup key with
    | none => some (inner ++ [(key, .table .header [])])
    | some (.table .path rows) =>
      some (inner.filter (fun e => e.1 != key) ++ [(key, .table .header rows)])
    | some _ => none) .header entries path

/-- Opens a further table of a repeated header. -/
def openRow? (entries : Entries) (path : List String) (key : String) : Option Entries :=
  modifyAt? false (fun _ inner =>
    match inner.lookup key with
    | none => some (inner ++ [(key, .tables [[]])])
    | some (.tables rows) => some (replace inner key (.tables (rows ++ [[]])))
    | some _ => none) .header entries path

/-- Adds `path.key = value` below the table that is open. -/
def assignBelow? (entries : Entries) (opened path : List String) (key : String)
    (value : Item) : Option Entries :=
  modifyAt? false (fun _ inner => assign? inner path key value) .header entries opened

/-- The root table of a row of statements, given what stands so far and the path of
the table that is open. -/
def buildFrom? (entries : Entries) (opened : List String) : List Statement → Option Entries
  | [] => some entries
  | .assign path key value :: rest => do
    buildFrom? (← assignBelow? entries opened path key value) opened rest
  | .header path key :: rest => do
    buildFrom? (← open? entries path key) (path ++ [key]) rest
  | .arrayHeader path key :: rest => do
    buildFrom? (← openRow? entries path key) (path ++ [key]) rest

/-- The root table of a document. -/
def build? (statements : List Statement) : Option Entries := buildFrom? [] [] statements

/-- The entries of a value in braces. -/
def inlineEntries? (pairs : List (List String × String × Item)) : Option Entries :=
  pairs.foldlM (fun entries (path, key, value) => assign? entries path key value) []

end Toml

end Ocpp

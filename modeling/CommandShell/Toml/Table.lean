namespace CommandShell

/-!
# Toml.Table — what a TOML document says

* `Toml.Node` — a value or a table; a table remembers how it came to be;
* `Toml.lookup`, `Toml.put` — the entries of a table;
* `Toml.descend` — changing the table at the end of a path of keys;
* `Toml.assign`, `Toml.openTable`, `Toml.openElement` — what the statements of a document do.

A table may be written once. Tables on the way to a header or made by a dotted key may be added
to, the latter by dotted keys of the same table only.
-/

namespace Toml

/-- How a table came to be. -/
inductive Origin where
  /-- Its header was written, or it is the document or an element of an array of tables. -/
  | written
  /-- It lies on the way to a header. -/
  | implied
  /-- It lies on the way of a dotted key. -/
  | dotted
  /-- It was written between braces, and is complete. -/
  | braced
deriving DecidableEq, Repr

/-- A value or a table. -/
inductive Node where
  /-- A string. -/
  | text (content : String)
  /-- An integer. -/
  | integer (number : Int)
  /-- A number that is no integer, as written. -/
  | float (digits : String)
  /-- A truth value. -/
  | boolean (truth : Bool)
  /-- A date, a time or both, as written. -/
  | moment (digits : String)
  /-- An array of values. -/
  | array (items : List Node)
  /-- A table. -/
  | table (origin : Origin) (entries : List (String × Node))
  /-- An array of tables, each written under a header of its own. -/
  | tables (elements : List (List (String × Node)))
deriving Repr

/-- The entries of a table. -/
abbrev Entries := List (String × Node)

/-- The value of a key. -/
def lookup (entries : Entries) (key : String) : Option Node :=
  (entries.find? (·.1 = key)).map (·.2)

/-- The entries with another value for a key. -/
def put : Entries → String → Node → Entries
  | [], key, node => [(key, node)]
  | entry :: rest, key, node =>
    if entry.1 = key then (key, node) :: rest else entry :: put rest key node

/-- Changes the table at the end of a path of keys, read from a table with the given origin.
    Missing tables on the way are made. A path of a dotted key does not lead through tables that
    were written; no path leads through a value. -/
def descend (dotted : Bool) (change : Origin → Entries → Option Entries) :
    (path : List String) → Origin → Entries → Option Entries
  | [], origin, entries => change origin entries
  | key :: rest, _, entries =>
    match lookup entries key with
    | none =>
      let made := if dotted then Origin.dotted else .implied
      (descend dotted change rest made []).map fun inner => put entries key (.table made inner)
    | some (.table origin inner) =>
      -- A table between braces is complete, and one with a header is closed to dotted keys.
      if origin = .braced ∨ (dotted ∧ origin = .written) then none
      else (descend dotted change rest origin inner).map fun inner =>
        put entries key (.table origin inner)
    | some (.tables elements) =>
      match elements.getLast? with
      | none => none
      | some last =>
        (descend dotted change rest .written last).map fun last =>
          put entries key (.tables (elements.dropLast ++ [last]))
    | some _ => none

/-- Gives a dotted key a value in a table. The table it ends in must have been made by dotted keys,
    unless the key is a single one. -/
def assign (path : List String) (key : String) (node : Node) (origin : Origin)
    (entries : Entries) : Option Entries :=
  descend true (fun origin inner =>
    if decide (origin = .dotted) = path.isEmpty then none
    else if (lookup inner key).isSome then none
    else some (inner ++ [(key, node)])) path origin entries

/-- Begins the table of a header. -/
def openTable (path : List String) (key : String) (document : Entries) : Option Entries :=
  descend false (fun _ inner =>
    match lookup inner key with
    | none => some (inner ++ [(key, .table .written [])])
    | some (.table .implied entries) => some (put inner key (.table .written entries))
    | some _ => none) path .written document

/-- Begins one more table of an array of tables. -/
def openElement (path : List String) (key : String) (document : Entries) : Option Entries :=
  descend false (fun _ inner =>
    match lookup inner key with
    | none => some (inner ++ [(key, .tables [[]])])
    | some (.tables elements) => some (put inner key (.tables (elements ++ [[]])))
    | some _ => none) path .written document

end Toml

end CommandShell

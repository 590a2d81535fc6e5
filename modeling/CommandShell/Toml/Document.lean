import CommandShell.Toml.Scalar
import CommandShell.Toml.Text

namespace CommandShell

/-!
# Toml.Document — from a text to what it says

A document is a sequence of statements, each on a line of its own.

* `Toml.keys?` — a key, whose parts are separated by dots;
* `Toml.value?` — a value: a string, a scalar, an array or an inline table;
* `Toml.Statement` — a header or an assignment; `Toml.statements?` reads those of a text;
* `Toml.run` — the entries that statements give;
* `Toml.parse?` — both; none if the text is no TOML document.
-/

namespace Toml

/-- How deep arrays and inline tables may be nested, and how many parts a key may have. -/
def depthLimit : Nat := 79

/-- What follows blanks. -/
def skipBlanks (cs : List Char) : List Char := cs.dropWhile isBlank

/-- What follows a comment, or what is there if there is none. -/
def skipComment : List Char → List Char
  | '#' :: rest => rest.dropWhile isText
  | cs => cs

/-- What follows the end of a line, blanks and a comment before it left out. -/
def takeLineRest (cs : List Char) : Option (List Char) :=
  match skipComment (skipBlanks cs) with
  | [] => some []
  | rest => takeNewline rest

/-- Whether the character may stand in a key without quotes. -/
def isBare (c : Char) : Bool :=
  ('a' ≤ c && c ≤ 'z') || ('A' ≤ c && c ≤ 'Z') || c.isDigit || c = '_' || c = '-'

/-- One part of a key. -/
def keyPart? (cs : List Char) : Option (String × List Char) :=
  match cs with
  | '"' :: rest => basic [] rest
  | '\'' :: rest => literal [] rest
  | _ =>
    let part := cs.takeWhile isBare
    if part.isEmpty then none else some (String.ofList part, cs.drop part.length)

/-- A key of at most `parts` parts, blanks around each of them left out. -/
def keys? : (parts : Nat) → List Char → Option (List String × List Char)
  | 0, _ => none
  | parts + 1, cs =>
    match keyPart? (skipBlanks cs) with
    | none => none
    | some (part, rest) =>
      match skipBlanks rest with
      | '.' :: rest => (keys? parts rest).map fun (others, rest) => (part :: others, rest)
      | rest => some ([part], rest)

/-- Whether the character may stand in a scalar. -/
def isScalarChar (c : Char) : Bool := isBare c || c = '+' || c = '.' || c = ':'

/-- A scalar that is no string. A time may follow a date after a space. -/
def bareValue? (cs : List Char) : Option (Node × List Char) :=
  let word := cs.takeWhile isScalarChar
  let rest := cs.drop word.length
  -- `1979-05-27 07:32:00` is one value, `1979-05-27 # a comment` is not.
  let taken :=
    match rest with
    | ' ' :: next :: _ =>
      if isDate word ∧ next.isDigit then
        word ++ ' ' :: (rest.drop 1).takeWhile isScalarChar
      else word
    | _ => word
  (scalar? taken).map fun node => (node, cs.drop taken.length)

/-- What follows blanks, newlines and comments. At most `steps` characters are read. -/
def skipLines : (steps : Nat) → List Char → List Char
  | 0, cs => cs
  | steps + 1, cs =>
    match cs with
    | '#' :: _ => skipLines steps (skipComment cs)
    | c :: rest =>
      if isBlank c then skipLines steps rest
      else match takeNewline cs with
        | some rest => skipLines steps rest
        | none => cs
    | [] => []

/-- What follows blanks, newlines and comments. -/
def skipTrivia (cs : List Char) : List Char := skipLines cs.length cs

mutual

/-- A value. Arrays and inline tables may be nested `depth` deep. -/
def value? : (steps depth : Nat) → List Char → Option (Node × List Char)
  | 0, _, _ => none
  | steps + 1, depth, cs =>
    match cs with
    | '"' :: _ => (string? cs).map fun (content, rest) => (.text content, rest)
    | '\'' :: _ => (string? cs).map fun (content, rest) => (.text content, rest)
    | '[' :: rest => if depth = 0 then none else items? steps (depth - 1) [] (skipTrivia rest)
    | '{' :: rest =>
      if depth = 0 then none
      else match skipBlanks rest with
        | '}' :: rest => some (.table .braced [], rest)
        | rest => pairs? steps (depth - 1) [] rest
    | _ => bareValue? cs

/-- The values of an array, blanks before them left out, up to the closing bracket; `done` holds
    those before them, the last one first. -/
def items? : (steps depth : Nat) → (done : List Node) → List Char → Option (Node × List Char)
  | 0, _, _, _ => none
  | steps + 1, depth, done, cs =>
    match cs with
    | ']' :: rest => some (.array done.reverse, rest)
    | _ =>
      match value? steps depth cs with
      | none => none
      | some (item, rest) =>
        match skipTrivia rest with
        | ',' :: rest => items? steps depth (item :: done) (skipTrivia rest)
        | ']' :: rest => some (.array (item :: done).reverse, rest)
        | _ => none

/-- The assignments of an inline table up to the closing brace; `entries` is what those before them
    gave. -/
def pairs? : (steps depth : Nat) → (entries : Entries) → List Char → Option (Node × List Char)
  | 0, _, _, _ => none
  | steps + 1, depth, entries, cs =>
    match keys? depthLimit cs with
    | some (keys, '=' :: rest) =>
      match value? steps depth (skipBlanks rest) with
      | none => none
      | some (node, rest) =>
        -- An inline table is filled like the document itself, dotted keys included.
        match assign keys.dropLast (keys.getLast?.getD "") node .written entries with
        | none => none
        | some entries =>
          match skipBlanks rest with
          | ',' :: rest => pairs? steps depth entries rest
          | '}' :: rest => some (.table .braced entries, rest)
          | _ => none
    | _ => none

end

/-- What one line of a document does. -/
inductive Statement where
  /-- Begins the table of a path. -/
  | header (path : List String) (key : String)
  /-- Begins one more table of an array of tables. -/
  | element (path : List String) (key : String)
  /-- Gives a key a value in the table that was begun last. -/
  | assignment (path : List String) (key : String) (node : Node)
deriving Repr

/-- The path and the last part of a key. -/
def splitKeys (keys : List String) : List String × String :=
  (keys.dropLast, keys.getLast?.getD "")

/-- The statement at the front of the characters. -/
def statement? (cs : List Char) : Option (Statement × List Char) :=
  match cs with
  | '[' :: '[' :: rest =>
    match keys? depthLimit rest with
    | some (keys, ']' :: ']' :: rest) =>
      some (.element (splitKeys keys).1 (splitKeys keys).2, rest)
    | _ => none
  | '[' :: rest =>
    match keys? depthLimit rest with
    | some (keys, ']' :: rest) => some (.header (splitKeys keys).1 (splitKeys keys).2, rest)
    | _ => none
  | _ =>
    match keys? depthLimit cs with
    | some (keys, '=' :: rest) =>
      (value? (2 * rest.length + 2) depthLimit (skipBlanks rest)).map fun (node, rest) =>
        (.assignment (splitKeys keys).1 (splitKeys keys).2 node, rest)
    | _ => none

/-- The statements of a text of at most `lines` lines. -/
def statementsFrom : (lines : Nat) → List Char → Option (List Statement)
  | 0, cs => if cs.isEmpty then some [] else none
  | lines + 1, cs =>
    if cs.isEmpty then some []
    else match takeLineRest cs with
      | some rest => statementsFrom lines rest
      | none =>
        match statement? (skipBlanks cs) with
        | none => none
        | some (statement, rest) =>
          match takeLineRest rest with
          | none => none
          | some rest => (statementsFrom lines rest).map (statement :: ·)

/-- The character that a text may begin with to tell how it is encoded. -/
def byteOrderMark : Char := '\uFEFF'

/-- The statements of a text. -/
def statements? (text : String) : Option (List Statement) :=
  let cs := text.toList
  let cs := if cs.head? == some byteOrderMark then cs.drop 1 else cs
  statementsFrom cs.length cs

/-- A document on the way of being read: its entries, and the path of the table begun last. -/
structure Draft where
  /-- The entries so far. -/
  entries : Entries := []
  /-- The path of the table that assignments belong to. -/
  current : List String := []

/-- Carries out one statement. -/
def Draft.take (draft : Draft) : Statement → Option Draft
  | .header path key =>
    (openTable path key draft.entries).map fun entries => ⟨entries, path ++ [key]⟩
  | .element path key =>
    (openElement path key draft.entries).map fun entries => ⟨entries, path ++ [key]⟩
  | .assignment path key node =>
    (descend false (assign path key node) draft.current .written draft.entries).map fun entries =>
      { draft with entries }

/-- The entries that statements give, if they may stand in one document. -/
def run (statements : List Statement) : Option Entries :=
  (statements.foldlM Draft.take {}).map (·.entries)

/-- What a text says, if it is a TOML document. -/
def parse? (text : String) : Option Entries := (statements? text).bind run

end Toml

end CommandShell

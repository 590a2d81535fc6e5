import CommandShell.Tools.Scripting.Syntax
import CommandShell.Tools.Task

namespace CommandShell

/-!
# Scripting.Expansion — from words to fields

* `Scripting.State` — a script while it runs;
* `Scripting.Atom` — a word after its parameters were filled in;
* `Scripting.fieldsOf` — the fields of a word, cut where an unquoted value holds blanks;
* `Scripting.matchesPattern`, `Scripting.expandPattern` — the names that a pattern stands for;
* `Scripting.expand`, `Scripting.expandOne` — words to fields, and a word to one text.
-/

namespace Scripting

/-- The characters of bytes. -/
def ofBytes (bs : Bytes) : List Char := bs.map fun b => Char.ofNat b.toNat

/-- The bytes of characters. -/
def toBytes (cs : List Char) : Bytes := cs.map fun c => UInt8.ofNat c.toNat

/-- A script while it runs. -/
structure State where
  /-- The program that runs it. The variables of its process are those that others get. -/
  task : Task
  /-- The name of the script. -/
  name : Bytes
  /-- The parameters. -/
  parameters : List Bytes
  /-- The variables that no other program gets. -/
  locals : Variables := {}
  /-- The code of the last command. -/
  status : Nat := 0
  /-- The process id of the last command that was not waited for. -/
  lastJob : Option Nat := none

namespace State

/-- The value of a variable. -/
def valueOf? (s : State) (name : Bytes) : Option Bytes :=
  (OrderedMap.get? s.task.process.vars name).or (OrderedMap.get? s.locals name)

/-- Gives a variable a value. One that other programs get, they get with the new value. -/
def assign (s : State) (name value : Bytes) : State :=
  let vars := s.task.process.vars
  if (OrderedMap.get? vars name).isSome then
    { s with task := { s.task with process :=
      { s.task.process with vars := vars.set name value } } }
  else { s with locals := s.locals.set name value }

/-- Lets other programs get a variable. -/
def publish (s : State) (name : Bytes) : State :=
  match OrderedMap.get? s.locals name with
  | none => s
  | some value =>
    { s with
      task := { s.task with process :=
        { s.task.process with vars := s.task.process.vars.set name value } }
      locals := s.locals.filter fun other _ => other ≠ name }

/-- The value of a parameter that has one. -/
def parameter? (s : State) (name : List Char) : Option Bytes :=
  match name with
  | ['?'] => some (Bytes.ofString (toString s.status))
  | ['$'] => some (Bytes.ofString (toString s.task.process.pid))
  | ['#'] => some (Bytes.ofString (toString s.parameters.length))
  | ['!'] => s.lastJob.map fun pid => Bytes.ofString (toString pid)
  | ['-'] => some []
  | ['0'] => some s.name
  | ['P', 'P', 'I', 'D'] => some (Bytes.ofString (toString s.task.process.parent))
  | _ =>
    if name.all Char.isDigit then
      let n := name.foldl (fun n c => n * 10 + (c.toNat - 48)) 0
      s.parameters[n - 1]?
    else s.valueOf? (toBytes name)

end State

/-- A part of a word after its parameters were filled in. -/
inductive Atom where
  /-- A character: whether it is quoted, and whether a blank cuts the word. -/
  | char (c : Char) (quoted cuts : Bool)
  /-- A place where the word is cut. -/
  | cut
  /-- Something quoted that may be empty. -/
  | quotes
deriving DecidableEq, Repr

/-- A value that is filled in. -/
def valueAtoms (quoted : Bool) (value : Bytes) : List Atom :=
  (if quoted then [Atom.quotes] else []) ++
    (ofBytes value).map fun c => .char c quoted (!quoted)

/-- The atoms of a piece. -/
def atomsOf (s : State) : Piece → List Atom
  | .char c quoted => [.char c quoted false]
  | .nothing => [.quotes]
  | .parameter ['@'] quoted =>
    List.intercalate [.cut] (s.parameters.map (valueAtoms quoted))
  | .parameter ['*'] true =>
    .quotes :: List.intercalate [.char ' ' true false] (s.parameters.map (valueAtoms true))
  | .parameter ['*'] false =>
    List.intercalate [.cut] (s.parameters.map (valueAtoms false))
  | .parameter name quoted => valueAtoms quoted ((s.parameter? name).getD [])

/-- A field: its characters, and whether each is quoted. -/
abbrev Field := List (Char × Bool)

/-- Whether the character cuts a word. -/
def isBlank (c : Char) : Bool := c = ' ' || c = '\t' || c = '\n'

/-- The fields that atoms make; `current` is the field that was begun, its last character first. -/
def fieldsFrom (current : Option Field) : List Atom → List Field
  | [] => (current.map List.reverse).toList
  | .cut :: rest => (current.map List.reverse).toList ++ fieldsFrom none rest
  | .quotes :: rest => fieldsFrom (some (current.getD [])) rest
  | .char c quoted cuts :: rest =>
    if cuts && isBlank c then (current.map List.reverse).toList ++ fieldsFrom none rest
    else fieldsFrom (some ((c, quoted) :: current.getD [])) rest

/-- The fields of a word. -/
def fieldsOf (s : State) (word : Word) : List Field := fieldsFrom none (word.flatMap (atomsOf s))

/-! ### Patterns -/

/-- Whether the field asks for names: it holds an unquoted star, question mark or bracket. -/
def isPattern (field : Field) : Bool :=
  field.any fun (c, quoted) => !quoted && ['*', '?', '['].contains c

/-- The characters between brackets, and what follows them. -/
def bracket? (field : Field) : Option (List Char × Field) :=
  let isOpen (x : Char × Bool) : Bool := x.1 ≠ ']' || x.2
  match field with
  | first :: rest =>
    let inner := first :: rest.takeWhile isOpen
    if inner.length = field.length then none
    else some (inner.map (·.1), field.drop (inner.length + 1))
  | [] => none

/-- Whether the character is among those that brackets hold: single ones and ranges. -/
def inBracket (c : Char) : List Char → Bool
  | low :: '-' :: high :: rest => (low ≤ c && c ≤ high) || inBracket c rest
  | x :: rest => x = c || inBracket c rest
  | [] => false

/-- Whether a name is one that a pattern asks for. -/
def matchesPattern : (steps : Nat) → Field → List Char → Bool
  | 0, _, _ => false
  | steps + 1, field, name =>
    match field, name with
    | [], name => name.isEmpty
    | ('*', false) :: rest, [] => matchesPattern steps rest []
    | ('*', false) :: rest, c :: others =>
      matchesPattern steps rest (c :: others) || matchesPattern steps field others
    | ('?', false) :: rest, _ :: others => matchesPattern steps rest others
    | ('[', false) :: rest, c :: others =>
      match bracket? rest with
      | some ('!' :: inner, after) => !inBracket c inner && matchesPattern steps after others
      | some (inner, after) => inBracket c inner && matchesPattern steps after others
      | none => c = '[' && matchesPattern steps rest others
    | (x, _) :: rest, c :: others => x = c && matchesPattern steps rest others
    | _ :: _, [] => false

/-- The segments of a field between slashes. -/
def segmentsOf (field : Field) : List Field :=
  field.foldr (fun x segments =>
    if x.1 = '/' then [] :: segments
    else match segments with
      | [] => [[x]]
      | first :: rest => (x :: first) :: rest) [[]]

/-- The names in a directory that a pattern asks for, in order. Those with a dot in front are asked
    for only by a dot in front. -/
def namesFor (s : State) (directory : Bytes) (segment : Field) : List Bytes :=
  let path : Path := if directory.isEmpty then ⟨Path.here⟩ else ⟨directory⟩
  let names :=
    (s.task.world.files.readDirectory s.task.process.directory path).toOption.getD []
  let hidden := segment.head?.any (·.1 = '.')
  let fits (name : Bytes) : Bool :=
    (hidden || name.head? != some 46) &&
      matchesPattern (2 * (name.length + segment.length) + 2) segment (ofBytes name)
  (names.filter fits).mergeSort fun x y => decide (x ≤ y)

/-- The paths that the segments of a pattern stand for, after what was found for those before. -/
def expandSegments (s : State) (front : Bytes) : List Field → List Bytes
  | [] => [front]
  | segment :: rest =>
    let names :=
      if isPattern segment then namesFor s front segment
      else [toBytes (segment.map (·.1))]
    names.flatMap fun name =>
      let path := front ++ name
      let fs := s.task.world.files
      let there : Bool :=
        if segment.isEmpty then (s.task.openFile ⟨path⟩).toOption.isSome
        else (fs.entryAt? s.task.process.directory ⟨path⟩).isSome
      -- What a pattern has found is there; a plain name after a pattern has to be looked up.
      if rest.isEmpty then if isPattern segment || there then [path] else []
      else expandSegments s (path ++ [Path.separator]) rest

/-- The paths that a field stands for; the field itself if it asks for no names, or none are
    found. -/
def expandPattern (s : State) (field : Field) : List Bytes :=
  let plain := toBytes (field.map (·.1))
  if isPattern field then
    match expandSegments s [] (segmentsOf field) with
    | [] => [plain]
    | paths => paths
  else [plain]

/-- The fields of words. -/
def expand (s : State) (words : List Word) : List Bytes :=
  words.flatMap fun word => (fieldsOf s word).flatMap (expandPattern s)

/-- The text of a word that is not cut. -/
def expandOne (s : State) (word : Word) : Bytes :=
  (word.flatMap (atomsOf s)).flatMap fun atom =>
    match atom with
    | .char c _ _ => toBytes [c]
    | .cut => [32]
    | .quotes => []

end Scripting

end CommandShell

import CommandShell.Text.Utf8

namespace CommandShell

/-!
# Path — names of files, as written

A path is the byte string that names a file. Operations that only look at the text live here;
what a path leads to is a matter of the file system.

* `Path.join` — a path read from a directory: an absolute one stands for itself;
* `Path.components` — what a path says, blank parts (`//` and `.`) left out;
* `Path.stripPrefix?` — the rest of a path below another, compared by components;
* `Path.display` — the text shown for a path.
-/

/-- A path as written. -/
structure Path where
  /-- The bytes of the path. -/
  bytes : Bytes
deriving DecidableEq, Repr, Inhabited

namespace Path

/-- The byte between the parts of a path. -/
def separator : UInt8 := 47

/-- The part that stands for the directory it is read in. -/
def here : Bytes := [46]

/-- The part that stands for the directory above. -/
def above : Bytes := [46, 46]

/-- The path with a given text. -/
def ofString (s : String) : Path := ⟨Bytes.ofString s⟩

/-- The directory that every absolute path starts from. -/
def root : Path := ⟨[separator]⟩

/-- Whether the path starts at the root. -/
def isAbsolute (p : Path) : Bool := p.bytes.head? == some separator

/-- The text shown for a path. -/
def display (p : Path) : String := p.bytes.toStringLossy

/-- `q` read from the directory `p`: an absolute `q` replaces `p`, any other is written after `p`
    and one separator, unless `p` is empty or ends in one. -/
def join (p q : Path) : Path :=
  if q.isAbsolute then q
  else if p.bytes.isEmpty || p.bytes.getLast? == some separator then ⟨p.bytes ++ q.bytes⟩
  else ⟨p.bytes ++ separator :: q.bytes⟩

/-- The parts of the path between separators, empty ones included. -/
def segments (p : Path) : List Bytes := Bytes.splitOn separator p.bytes

/-- A part that leads nowhere: nothing between two separators, or a dot. -/
def isBlank (segment : Bytes) : Bool := segment.isEmpty || segment == here

/-- What one part of a path says. -/
inductive Component where
  /-- Start at the root. -/
  | root
  /-- Start here, said at the front of a relative path. -/
  | current
  /-- Go to the directory above. -/
  | parent
  /-- Go to the entry of that name. -/
  | normal (name : Bytes)
deriving DecidableEq, Repr

/-- How a path starts. -/
inductive Start where
  /-- With a separator. -/
  | absolute
  /-- With a dot that is a part of its own. -/
  | dotted
  /-- With a name, or not at all. -/
  | plain
deriving DecidableEq, Repr

/-- How the path starts, and its parts after the start. -/
def parts (p : Path) : Start × List Bytes :=
  match p.bytes with
  | [] => (.plain, [])
  | b :: rest =>
    if b = separator then (.absolute, Bytes.splitOn separator rest)
    else match p.segments with
      | [] => (.plain, [])
      | first :: others => if first = here then (.dotted, others) else (.plain, first :: others)

/-- The component a start says. -/
def Start.components : Start → List Component
  | .absolute => [.root]
  | .dotted => [.current]
  | .plain => []

/-- The component a part says; none for a blank one. -/
def Component.ofSegment? (segment : Bytes) : Option Component :=
  if isBlank segment then none
  else if segment = above then some .parent
  else some (.normal segment)

/-- The text of a component when it stands alone. -/
def Component.text : Component → Bytes
  | .root => [separator]
  | .current => here
  | .parent => above
  | .normal name => name

/-- What the path says: repeated separators and dots other than a leading one say nothing. -/
def components (p : Path) : List Component :=
  p.parts.1.components ++ p.parts.2.filterMap Component.ofSegment?

/-- The parts without the blank ones at the end. -/
def dropBlankEnd (segments : List Bytes) : List Bytes :=
  (segments.reverse.dropWhile isBlank).reverse

/-- What follows the first `n` parts that are not blank. -/
def dropParts : Nat → List Bytes → List Bytes
  | 0, segments => segments
  | _ + 1, [] => []
  | n + 1, segment :: rest => if isBlank segment then dropParts (n + 1) rest else dropParts n rest

/-- The path written from its start and its parts. -/
def ofParts (start : Start) (segments : List Bytes) : Path :=
  let body := Bytes.joinWith separator segments
  match start with
  | .absolute => ⟨separator :: body⟩
  | .dotted => if segments.isEmpty then ⟨here⟩ else ⟨here ++ separator :: body⟩
  | .plain => ⟨body⟩

/-- The path below `base`, if the components of `base` are the first ones of `p`. What is left is
    written as in `p`, without blank parts at its two ends. -/
def stripPrefix? (p base : Path) : Option Path :=
  if base.components.isPrefixOf p.components then
    match base.components.length - p.parts.1.components.length, base.components.length with
    | _, 0 => some (ofParts p.parts.1 (dropBlankEnd p.parts.2))
    | n, _ + 1 => some (ofParts .plain (dropBlankEnd ((dropParts n p.parts.2).dropWhile isBlank)))
  else none

end Path

end CommandShell

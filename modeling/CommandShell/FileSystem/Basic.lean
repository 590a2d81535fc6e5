import CommandShell.Path
import CommandShell.SystemError

namespace CommandShell

/-!
# FileSystem — files, directories and links

A file system is a table of nodes. A directory names nodes of the table, so a file keeps its
identity when its name goes away and a directory that is removed is told apart from a new one of
the same name.

* `Node` — what a number of the table stands for;
* `FileSystem` — the table; number `0` is the root directory;
* `Location` — where a directory or file was found: the names and nodes on the way from the root;
* `FileSystem.isCurrent` — whether a location is still what its names lead to.
-/

/-- The number of a node in the table of a file system. -/
abbrev NodeId := Nat

/-- Files that are no storage. -/
inductive Device where
  /-- Takes everything and holds nothing. -/
  | null
  /-- Has no room. -/
  | full
  /-- Shows a process the arguments it was started with. -/
  | arguments
deriving DecidableEq, Repr

/-- What a number of the table stands for. -/
inductive Node where
  /-- A regular file with its permission bits and its content. -/
  | file (mode : Nat) (content : Bytes)
  /-- A directory with its entries. -/
  | directory (entries : List (Bytes × NodeId))
  /-- A directory that was removed. -/
  | removed
  /-- A symbolic link. -/
  | link (target : Path)
  /-- A device. -/
  | device (kind : Device)
deriving DecidableEq, Repr, Inhabited

/-- A table of nodes; number `0` is the root directory. -/
structure FileSystem where
  /-- The nodes by number. -/
  nodes : Array Node
deriving Inhabited

/-- Names and nodes on the way from the root to a file, the last one first. -/
structure Location where
  /-- The steps of the way. -/
  steps : List (Bytes × NodeId)
deriving DecidableEq, Repr, Inhabited

namespace Location

/-- The root directory. -/
def root : Location := ⟨[]⟩

/-- The node that the way ends at. -/
def node (at' : Location) : NodeId :=
  match at'.steps with
  | [] => 0
  | (_, id) :: _ => id

/-- The directory above; the root is above itself. -/
def parent (at' : Location) : Location := ⟨at'.steps.tail⟩

/-- The way that goes one step further. -/
def child (at' : Location) (name : Bytes) (id : NodeId) : Location := ⟨(name, id) :: at'.steps⟩

/-- The absolute path of the location, without links, blank parts or ways up. -/
def path (at' : Location) : Path :=
  ⟨Path.separator :: Bytes.joinWith Path.separator (at'.steps.reverse.map (·.1))⟩

end Location

namespace FileSystem

/-- The file system with an empty root directory. -/
def empty : FileSystem := ⟨#[.directory []]⟩

/-- The node of a number. -/
def node? (fs : FileSystem) (id : NodeId) : Option Node := fs.nodes[id]?

/-- The file system with another node under a number. -/
def setNode (fs : FileSystem) (id : NodeId) (node : Node) : FileSystem :=
  ⟨fs.nodes.setIfInBounds id node⟩

/-- The node that a directory has under a name. -/
def lookup (entries : List (Bytes × NodeId)) (name : Bytes) : Option NodeId :=
  (entries.find? (·.1 = name)).map (·.2)

/-- The entries of a directory; none for anything else. -/
def entries? (fs : FileSystem) (id : NodeId) : Option (List (Bytes × NodeId)) :=
  match fs.node? id with
  | some (.directory entries) => some entries
  | some .removed => some []
  | _ => none

/-- Whether the node is a directory. -/
def isDirectory (fs : FileSystem) (id : NodeId) : Bool := (fs.entries? id).isSome

/-- Whether every step of the location is still there. -/
def isCurrent (fs : FileSystem) : List (Bytes × NodeId) → Bool
  | [] => true
  | (name, id) :: above =>
    fs.isCurrent above &&
      ((fs.entries? (Location.node ⟨above⟩)).bind (lookup · name)) == some id

/-- The path of a location, if it still exists. -/
def currentPath? (fs : FileSystem) (at' : Location) : Option Path :=
  if fs.isCurrent at'.steps then some at'.path else none

/-- A directory with one more entry, for a node that is added to the table. -/
def addEntry (fs : FileSystem) (directory : NodeId) (name : Bytes) (node : Node) :
    FileSystem × NodeId :=
  let id := fs.nodes.size
  let grown : FileSystem := ⟨fs.nodes.push node⟩
  match grown.node? directory with
  | some (.directory entries) =>
    (grown.setNode directory (.directory (entries ++ [(name, id)])), id)
  | _ => (grown, id)

/-- A directory without the entry of a name. -/
def dropEntry (fs : FileSystem) (directory : NodeId) (name : Bytes) : FileSystem :=
  match fs.node? directory with
  | some (.directory entries) =>
    fs.setNode directory (.directory (entries.filter (·.1 ≠ name)))
  | _ => fs

end FileSystem

end CommandShell

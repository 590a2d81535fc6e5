import CommandShell.FileSystem.Resolve

namespace CommandShell

/-!
# FileSystem.Change — making, writing and removing files

* `FileSystem.openInput`, `FileSystem.openOutput` — the file a stream is read from or written to,
  the latter made or emptied on the way;
* `FileSystem.content`, `FileSystem.write` — the bytes of a node;
* `FileSystem.makeDirectory`, `FileSystem.removeDirectory` — directories, as programs make and
  remove them;
* `FileSystem.install`, `FileSystem.remove` — setting up a file system from a description.
-/

namespace FileSystem

/-- The permission bits of a file that output redirection makes: those asked for, less the ones that
    the mask keeps from it. -/
def outputMode (mask : Nat) : Nat := 0o644 &&& (0o777 ^^^ mask)

/-- No mask makes such a file one that can be run. -/
theorem runnable_outputMode (mask : Nat) : runnable (outputMode mask) = false := by
  have hnone : outputMode mask &&& 0o111 = 0 := by
    rw [outputMode, Nat.and_comm 0o644, Nat.and_assoc, show 0o644 &&& 0o111 = 0 from rfl,
      Nat.and_zero]
  simp [runnable, hnone]

/-- The file that a path leads to, to be read. Directories can be opened, not read. -/
def openInput (fs : FileSystem) (start : Location) (path : Path) : Except IoError NodeId :=
  guarded path ((fs.locate start path).map Location.node)

/-- The file system in which a path to be written leads to a node, and that node. A file that is
    not there is made with the bits `mode`; one that is there is emptied if `truncate` says so. -/
def openForWriting (fs : FileSystem) (start : Location) (path : Path) (mode : Nat)
    (truncate : Bool) : Except Errno (FileSystem × NodeId) := do
  match ← fs.locateNew start path with
  | .vacant directory name => .ok (fs.addEntry directory.node name (.file mode []))
  | .existing id =>
    match fs.node? id with
    | some (.file bits content) =>
      .ok (fs.setNode id (.file bits (if truncate then [] else content)), id)
    | some (.device _) => .ok (fs, id)
    | _ => .error .isDirectory

/-- `openForWriting` for a redirected output, whose target may hold a NUL byte. -/
def openOutput (fs : FileSystem) (mask : Nat) (start : Location) (path : Path) (truncate : Bool) :
    Except IoError (FileSystem × NodeId) :=
  guarded path (fs.openForWriting start path (outputMode mask) truncate)

/-- The bytes that reading a node yields. -/
def content (fs : FileSystem) (id : NodeId) : Except Errno Bytes :=
  match fs.node? id with
  | some (.file _ content) => .ok content
  | some (.device _) => .ok []
  | some (.link _) => .error .tooManyLinks
  | _ => .error .isDirectory

/-- Writes bytes to a node from an offset on. Devices keep nothing, and the full one takes
    nothing. -/
def write (fs : FileSystem) (id : NodeId) (offset : Nat) (bytes : Bytes) :
    Except Errno FileSystem :=
  match fs.node? id with
  | some (.file mode old) =>
    -- Without bytes nothing is written, not even the gap before an offset beyond the end.
    if bytes.isEmpty then .ok fs
    else
      let gap := List.replicate (offset - old.length) Bytes.nul
      .ok (fs.setNode id
        (.file mode (old.take offset ++ gap ++ bytes ++ old.drop (offset + bytes.length))))
  | some (.device .full) => if bytes.isEmpty then .ok fs else .error .noSpace
  | some (.device _) => .ok fs
  | _ => .error .isDirectory

/-- Makes an empty directory where nothing is yet. -/
def makeDirectory (fs : FileSystem) (start : Location) (path : Path) :
    Except Errno FileSystem := do
  let trimmed : Path := ⟨(path.bytes.reverse.dropWhile (· = Path.separator)).reverse⟩
  if trimmed.bytes.isEmpty ∧ path.isAbsolute then .error .alreadyExists
  checkPath trimmed
  match trimmed.segments.getLast? with
  | some name =>
    if Path.isBlank name ∨ name = Path.above then
      let _ ← fs.locate start trimmed
      .error .alreadyExists
    else
      let directory ← fs.walk linkLimit (startOf start trimmed) trimmed.segments.dropLast
      match fs.node? directory.node with
      | some (.directory entries) =>
        if name.length > nameLimit then .error .nameTooLong
        else match lookup entries name with
          | some _ => .error .alreadyExists
          | none => .ok (fs.addEntry directory.node name (.directory [])).1
      | some .removed => .error .notFound
      | _ => .error .notDirectory
  | none => .error .notFound

/-- Where the directory is that holds the last part of a path, and that part. -/
def holder (fs : FileSystem) (start : Location) (path : Path) :
    Except Errno (Location × Bytes) := do
  checkPath path
  let parts := dropSlashes path.segments
  match parts.getLast? with
  | none => .error .busy
  | some name => return (← fs.walk linkLimit (startOf start path) parts.dropLast, name)

/-- What is at a path; a link at its end is not followed. -/
def entryAt? (fs : FileSystem) (start : Location) (path : Path) : Option Node :=
  match fs.holder start path with
  | .ok (directory, name) =>
    if Path.isBlank name ∨ name = Path.above then
      (fs.locate start path).toOption.bind fun found => fs.node? found.node
    else ((fs.entries? directory.node).bind (lookup · name)).bind fs.node?
  | .error _ => none

/-- Removes an empty directory. -/
def removeDirectory (fs : FileSystem) (start : Location) (path : Path) :
    Except Errno FileSystem := do
  let (directory, name) ← fs.holder start path
  match fs.entries? directory.node with
  | none => .error .notDirectory
  | some entries =>
    if name = Path.here then .error .invalidArgument
    else if name = Path.above then .error .notEmpty
    else if name.length > nameLimit then .error .nameTooLong
    else match lookup entries name with
      | none => .error .notFound
      | some id =>
        match fs.node? id with
        | some (.directory []) => .ok ((fs.dropEntry directory.node name).setNode id .removed)
        | some (.directory _) => .error .notEmpty
        | _ => .error .notDirectory

/-- What stands at a path in the description of a file system. -/
inductive Item where
  /-- A regular file. -/
  | file (mode : Nat) (content : Bytes)
  /-- A directory. -/
  | directory
  /-- A symbolic link. -/
  | link (target : Path)
  /-- A device. -/
  | device (kind : Device)
deriving Repr

/-- The node an item stands for when it is new. -/
def Item.node : Item → Node
  | .file mode content => .file mode content
  | .directory => .directory []
  | .link target => .link target
  | .device kind => .device kind

/-- Goes to a directory, making every directory on the way that is not there. -/
def enter (fs : FileSystem) (at' : Location) : List Bytes → FileSystem × Location
  | [] => (fs, at')
  | part :: rest =>
    match fs.walk linkLimit at' [part] with
    | .ok found => fs.enter found rest
    | .error _ =>
      let (grown, id) := fs.addEntry at'.node part (.directory [])
      grown.enter (at'.child part id) rest

/-- Puts an item at a path. Directories on the way are made; a file that is there gets the
    content and the permission bits, and a directory that is there stays. -/
def install (fs : FileSystem) (start : Location) (path : Path) (item : Item) : FileSystem :=
  let parts := (path.segments.filter (!Path.isBlank ·))
  match parts.getLast? with
  | none => fs
  | some name =>
    let (grown, directory) := fs.enter (startOf start path) parts.dropLast
    match item, grown.walk linkLimit directory [name] with
    | .file mode content, .ok found =>
      match grown.node? found.node with
      | some (.file ..) => grown.setNode found.node (.file mode content)
      | _ => grown
    | .directory, .ok _ => grown
    | _, _ =>
      match (grown.entries? directory.node).bind (lookup · name), item with
      | some _, .link target =>
        ((grown.dropEntry directory.node name).addEntry directory.node name (.link target)).1
      | some _, .file mode content =>
        match grown.openForWriting directory ⟨name⟩ mode true with
        | .ok (opened, id) => opened.setNode id (.file mode content)
        | .error _ => grown
      | some _, _ => grown
      | none, _ => (grown.addEntry directory.node name item.node).1

/-- Marks the directories among the nodes of the table as removed, entries and all. The depth
    bounds how far below the node the search goes. -/
def clear (fs : FileSystem) : (depth : Nat) → NodeId → FileSystem
  | 0, _ => fs
  | depth + 1, id =>
    match fs.node? id with
    | some (.directory entries) =>
      (entries.foldl (fun rest entry => rest.clear depth entry.2) fs).setNode id .removed
    | _ => fs

/-- Takes away the file, link or whole directory at a path. -/
def remove (fs : FileSystem) (start : Location) (path : Path) : FileSystem :=
  match fs.holder start path with
  | .error _ => fs
  | .ok (directory, name) =>
    match (fs.entries? directory.node).bind (lookup · name) with
    | none => fs
    | some id => (fs.clear fs.nodes.size id).dropEntry directory.node name

/-- What a directory and everything below it holds: each entry with its path from there, links not
    followed, in the order of the table. The depth bounds how far below the search goes. -/
def below (fs : FileSystem) : (depth : Nat) → NodeId → List (List Bytes × Node)
  | 0, _ => []
  | depth + 1, id =>
    ((fs.entries? id).getD []).flatMap fun entry =>
      match fs.node? entry.2 with
      | none => []
      | some node =>
        ([entry.1], node) ::
          (fs.below depth entry.2).map fun found => (entry.1 :: found.1, found.2)

/-- The files below a location, each with its path from there, in the order of the paths. -/
def tree (fs : FileSystem) (at' : Location) : List (Path × Node) :=
  ((fs.below fs.nodes.size at'.node).map fun found =>
    (⟨Bytes.joinWith Path.separator found.1⟩, found.2)).mergeSort
      fun x y => decide (x.1.bytes ≤ y.1.bytes)

end FileSystem

end CommandShell

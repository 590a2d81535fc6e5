import CommandShell.FileSystem.Basic

namespace CommandShell

/-!
# FileSystem.Resolve — what a path leads to

A path is walked part by part. A symbolic link is replaced by its target, read in the directory
that holds the link, and at most `FileSystem.linkLimit` links are followed on one way.

* `FileSystem.walk` — the walk itself;
* `FileSystem.locate` — where a path leads, every link followed;
* `FileSystem.locateNew` — where a path to be created leads: a file that is there, or a directory
  and the name of the file to make in it;
* `FileSystem.canonicalize` — where a path leads, walked from the root (`FileSystem.partsFromRoot`);
* `FileSystem.isRegular`, `FileSystem.isExecutable`,
  `FileSystem.readDirectory` — questions about a path.
-/

namespace FileSystem

/-- How many symbolic links are followed on one way. -/
def linkLimit : Nat := 40

/-- The longest name of a directory entry. -/
def nameLimit : Nat := 255

/-- The longest path, one byte kept for its end. -/
def pathLimit : Nat := 4095

/-- Walks the parts of a path from a location, following at most `links` links. A blank part
    stays, but only in a directory. -/
def walk (fs : FileSystem) (links : Nat) (at' : Location) :
    (parts : List Bytes) → Except Errno Location
  | [] => .ok at'
  | part :: rest =>
    match fs.entries? at'.node with
    | none => .error .notDirectory
    | some entries =>
      if Path.isBlank part then fs.walk links at' rest
      else if part = Path.above then fs.walk links at'.parent rest
      else if part.length > nameLimit then .error .nameTooLong
      else match lookup entries part with
        | none => .error .notFound
        | some id =>
          match fs.node? id with
          | some (.link target) =>
            match links with
            | 0 => .error .tooManyLinks
            | links + 1 =>
              -- The target is read in the directory that holds the link, before what is left.
              fs.walk links (if target.isAbsolute then .root else at') (target.segments ++ rest)
          | _ => fs.walk links (at'.child part id) rest
termination_by parts => (links, parts.length)

/-- Where the walk along a path begins. -/
def startOf (start : Location) (path : Path) : Location :=
  if path.isAbsolute then .root else start

/-- Whether the system looks at the path at all. -/
def checkPath (path : Path) : Except Errno Unit :=
  if path.bytes.isEmpty then .error .notFound
  else if path.bytes.length > pathLimit then .error .nameTooLong
  else .ok ()

/-- Where a path read from `start` leads, every link followed. -/
def locate (fs : FileSystem) (start : Location) (path : Path) : Except Errno Location := do
  checkPath path
  fs.walk linkLimit (startOf start path) path.segments

/-- Where a path to be created leads. -/
inductive Place where
  /-- To a file that is there. -/
  | existing (id : NodeId)
  /-- To a name that is free in a directory. -/
  | vacant (directory : Location) (name : Bytes)
deriving DecidableEq, Repr

/-- The parts without the empty ones at the end. -/
def dropSlashes (parts : List Bytes) : List Bytes :=
  (parts.reverse.dropWhile List.isEmpty).reverse

/-- Where parts to be created lead. A link at the end is followed, so what it names is made; a
    name with a separator after it can only be a directory. -/
def placeOf (fs : FileSystem) : (links : Nat) → Location → List Bytes → Except Errno Place
  | links, at', parts =>
    let named := dropSlashes parts
    match named.getLast? with
    | none => do return .existing (← fs.walk links at' parts).node
    | some name =>
      if Path.isBlank name ∨ name = Path.above then do
        return .existing (← fs.walk links at' parts).node
      else do
        let directory ← fs.walk links at' named.dropLast
        match fs.node? directory.node with
        | some (.directory entries) =>
          -- A separator at the end asks for a directory, and none is made here.
          if named.length < parts.length then .error .isDirectory
          else if name.length > nameLimit then .error .nameTooLong
          else match lookup entries name with
            | none => .ok (.vacant directory name)
            | some id =>
              match fs.node? id, links with
              | some (.link _), 0 => .error .tooManyLinks
              -- What a dangling link names is made, in the directory that holds the link.
              | some (.link target), links + 1 =>
                fs.placeOf links (if target.isAbsolute then .root else directory) target.segments
              | _, _ => .ok (.existing id)
        | some .removed => .error .notFound
        | _ => .error .notDirectory
termination_by links => links

/-- Where a path to be created leads, read from `start`. -/
def locateNew (fs : FileSystem) (start : Location) (path : Path) : Except Errno Place := do
  checkPath path
  fs.placeOf linkLimit (startOf start path) path.segments

/-- The requests below are made with a text that may hold a NUL byte, which no path may. -/
def guarded {α : Type} (path : Path) (ask : Except Errno α) : Except IoError α :=
  if path.bytes.hasNul then .error .nulInPath else ask.mapError .os

/-- The parts of the way from the root to what a path names. A relative path goes on from the path
    of the directory it is read in, and names nothing once that is gone. -/
def partsFromRoot (fs : FileSystem) (start : Location) (path : Path) : Except Errno (List Bytes) :=
  if path.isAbsolute then .ok path.segments
  else match fs.currentPath? start with
    | some here => .ok (here.segments ++ path.segments)
    | none => .error .notFound

/-- Where a path leads, as an absolute path without links. -/
def canonicalize (fs : FileSystem) (start : Location) (path : Path) : Except IoError Location :=
  guarded path do
    checkPath path
    fs.walk linkLimit .root (← fs.partsFromRoot start path)

/-- It does not matter where an absolute path is read. -/
theorem canonicalize_of_absolute {path : Path} (h : path.isAbsolute = true) (fs : FileSystem)
    (start : Location) : fs.canonicalize start path = guarded path (fs.locate start path) := by
  unfold canonicalize partsFromRoot locate startOf
  rw [if_pos h, if_pos h]
  rfl

/-- Whether a path leads to a regular file. -/
def isRegular (fs : FileSystem) (start : Location) (path : Path) : Bool :=
  match guarded path (fs.locate start path) with
  | .ok found =>
    match fs.node? found.node with
    | some (.file ..) => true
    | _ => false
  | .error _ => false

/-- Whether any of the permission bits for running a file is set. -/
def runnable (mode : Nat) : Bool := mode &&& 0o111 ≠ 0

/-- Whether a path leads to something that may be run; directories may be searched. -/
def isExecutable (fs : FileSystem) (start : Location) (path : Path) : Bool :=
  match guarded path (fs.locate start path) with
  | .ok found =>
    match fs.node? found.node with
    | some (.file mode _) => runnable mode
    | some (.directory _) => true
    | _ => false
  | .error _ => false

/-- The names in the directory that a path leads to. -/
def readDirectory (fs : FileSystem) (start : Location) (path : Path) :
    Except IoError (List Bytes) :=
  guarded path do
    let found ← fs.locate start path
    match fs.entries? found.node with
    | some entries => .ok (entries.map (·.1))
    | none => .error .notDirectory

end FileSystem

end CommandShell

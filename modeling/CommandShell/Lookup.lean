import CommandShell.FileSystem.Resolve
import CommandShell.Variables

namespace CommandShell

/-!
# Lookup — the program that a command name stands for

* `Lookup.candidates` — where a name of one part may be found: in the directories of `PATH`;
* `Lookup.find` — the program of a name: the first candidate that can be run, or, for a name that
  is a path of its own, the regular file it leads to.

Every path is read from the directory of the session.
-/

namespace Lookup

/-- The byte between the directories of `PATH`. -/
def searchSeparator : UInt8 := 58

/-- The directories of a search path, as written. -/
def directories (searchPath : Bytes) : List Path :=
  (Bytes.splitOn searchSeparator searchPath).map Path.mk

/-- The paths that a name is tried at, in order. -/
def candidates (searchPath : Bytes) (directory : Path) (name : Bytes) : List Path :=
  (directories searchPath).map fun entry => (directory.join entry).join ⟨name⟩

/-- The first candidate that is a regular file and may be run. -/
def findOnPath (fs : FileSystem) (start : Location) (searchPath : Bytes) (directory : Path)
    (name : Bytes) : Option Path :=
  (candidates searchPath directory name).find? fun path =>
    fs.isRegular start path && fs.isExecutable start path

/-- The path, if it leads to a regular file. Whether that may be run shows when it is run. -/
def findAt (fs : FileSystem) (start : Location) (path : Path) : Option Path :=
  if fs.isRegular start path then some path else none

/-- The program of a name. A name that says one component and does not start at the root is looked
    up along the search path; any other is a path read from the session's directory. -/
def find (fs : FileSystem) (start : Location) (searchPath : Bytes) (directory name : Path) :
    Option Path :=
  match name.components with
  | [] => none
  | [component] =>
    if name.isAbsolute then findAt fs start (directory.join name)
    else findOnPath fs start searchPath directory component.text
  | _ => findAt fs start (directory.join name)

/-- The search path of the variables; an absent one is empty. -/
def searchPathOf (vars : Variables) : Bytes := (Variables.get? vars "PATH").getD []

end Lookup

end CommandShell

import CommandShell.Failure

namespace CommandShell

/-!
# Redirection — files in place of the standard streams

* `Direction` — what an operator asks for;
* `Redirection` — a directive: an operator and the file that follows it;
* `Redirection.extract` — the directives of a list of words, and the words that are left;
* `Redirection.openAll` — opens the file of every directive, left to right; the last one for each
  stream stays.
-/

/-- What an operator asks for. -/
inductive Direction where
  /-- Read standard input from the file. -/
  | input
  /-- Write standard output to the file, emptied first. -/
  | truncate
  /-- Write standard output to the end of the file. -/
  | append
deriving DecidableEq, Repr

namespace Direction

/-- The operator that a word is. -/
def ofWord? (word : String) : Option Direction :=
  if word = "<" then some .input
  else if word = ">" then some .truncate
  else if word = ">>" then some .append
  else none

/-- The word that stands for the direction. -/
def operator : Direction → String
  | .input => "<"
  | .truncate => ">"
  | .append => ">>"

end Direction

/-- A directive of a command line. -/
structure Redirection where
  /-- What is asked for. -/
  direction : Direction
  /-- The file, as written. -/
  target : String
deriving DecidableEq, Repr

/-- What taking the directives out of a list of words gives. -/
structure Extraction where
  /-- The directives in their order; or the failure of an operator with nothing after it. -/
  result : Except Failure (List Redirection)
  /-- The words that are left. -/
  words : List String

namespace Redirection

/-- Goes on taking directives out of a list of words: those before position `i` stay as they are,
    and `found` are the directives that stood between them. -/
def extractFrom (words : List String) (i : Nat) (found : List Redirection) : Extraction :=
  if h : i < words.length then
    match Direction.ofWord? words[i] with
    | none => extractFrom words (i + 1) found
    | some direction =>
      if follows : i + 1 < words.length then
        -- With the target and the operator gone, position `i` holds what followed the target.
        extractFrom ((words.eraseIdx (i + 1)).eraseIdx i) i
          (found ++ [⟨direction, words[i + 1]⟩])
      else ⟨.error (.missingTarget direction.operator), words⟩
  else ⟨.ok found, words⟩
termination_by words.length - i
decreasing_by
  · omega
  · rw [List.length_eraseIdx_of_lt (by rw [List.length_eraseIdx_of_lt follows]; omega),
      List.length_eraseIdx_of_lt follows]
    omega

/-- Takes the directives out of a list of words, left to right. An operator takes the next word as
    its file, whatever that word is; an operator at the end has none and stays among the words. -/
def extract (words : List String) : Extraction := extractFrom words 0 []

/-- The path of the file, as written. -/
def path (r : Redirection) : Path := Path.ofString r.target

/-- Opens the file of a directive, read from the session's directory. -/
def openFile (r : Redirection) (h : Host) (directory : Path) :
    Except Failure (Handle × Host) :=
  let path := directory.join r.path
  match r.direction with
  | .input =>
    match h.world.files.openInput h.directory path with
    | .ok node => .ok (⟨node, 0, false⟩, h)
    | .error cause => .error (.redirectInput r.path cause)
  | .truncate =>
    match h.world.files.openOutput h.mask h.directory path true with
    | .ok (files, node) => .ok (⟨node, 0, false⟩, { h with world := { h.world with files } })
    | .error cause => .error (.redirectOutput r.path cause)
  | .append =>
    match h.world.files.openOutput h.mask h.directory path false with
    | .ok (files, node) => .ok (⟨node, 0, true⟩, { h with world := { h.world with files } })
    | .error cause => .error (.redirectOutput r.path cause)

end Redirection

/-- The files opened for a command; a stream without one is that of the caller. -/
structure OpenedFiles where
  /-- The file in place of standard input. -/
  input : Option Handle := none
  /-- The file in place of standard output. -/
  output : Option Handle := none
deriving DecidableEq, Repr

namespace OpenedFiles

/-- Puts a file that a directive opened in place of its stream. -/
def use (files : OpenedFiles) (direction : Direction) (handle : Handle) : OpenedFiles :=
  match direction with
  | .input => { files with input := some handle }
  | .truncate => { files with output := some handle }
  | .append => { files with output := some handle }

end OpenedFiles

namespace Redirection

/-- Opens the files of further directives. The first that cannot be opened ends it: the system
    stays as the directives before it left it. -/
def openOnto (directory : Path) (files : OpenedFiles) (h : Host) :
    List Redirection → Except Failure OpenedFiles × Host
  | [] => (.ok files, h)
  | r :: rest =>
    match r.openFile h directory with
    | .error failure => (.error failure, h)
    | .ok (handle, h) => openOnto directory (files.use r.direction handle) h rest

/-- Opens the files of all directives, left to right. -/
def openAll (directory : Path) (h : Host) (redirections : List Redirection) :
    Except Failure OpenedFiles × Host :=
  openOnto directory {} h redirections

end Redirection

end CommandShell

import CommandShell.Process

namespace CommandShell

/-!
# Execution — from a path to a running program

* `Image.ofContent` — what the content of an executable file is: machine code, or text that names
  its interpreter on the first line;
* `Execution.load` — the program behind a path and the arguments it gets, or the reason why there
  is none;
* `Execution.run` — the launcher that loads and runs; it lets programs start further programs, one
  within the other up to `Execution.nestingLimit`;
* `Execution.search` — running a program by name along the directories of `PATH`.
-/

/-- What an executable file holds. -/
inductive Image where
  /-- Code for the machine, if the system knows it. -/
  | machineCode
  /-- Text for an interpreter, which may get one argument of its own. -/
  | interpreted (interpreter : Path) (argument : Option Bytes)
  /-- A first line that names no interpreter. -/
  | unreadable
deriving Repr

namespace Image

/-- Space and tab. -/
def isBlank (b : UInt8) : Bool := b = 32 || b = 9

/-- How much of a file is looked at to find its interpreter. -/
def headLimit : Nat := 255

/-- Blanks at the end left out. -/
def trimEnd (bs : Bytes) : Bytes := (bs.reverse.dropWhile isBlank).reverse

/-- What an executable file with the content holds. -/
def ofContent (content : Bytes) : Image :=
  match content with
  | 35 :: 33 :: rest =>
    let line := trimEnd (((rest.take headLimit).takeWhile (· ≠ Bytes.newline)).dropWhile isBlank)
    let name := line.takeWhile (!isBlank ·)
    let argument := (line.drop name.length).dropWhile isBlank
    if name.isEmpty then .unreadable
    else .interpreted ⟨name⟩ (if argument.isEmpty then none else some argument)
  | _ => .machineCode

end Image

namespace Execution

/-- How many programs may wait for one another. -/
def nestingLimit : Nat := 64

/-- How many interpreters may stand in for one another. -/
def interpreterLimit : Nat := 5

/-- The longest argument or variable, the byte at its end included. -/
def argumentLimit : Nat := 131072

/-- How much room all arguments and variables may take. -/
def totalLimit : Nat := 2097152

/-- Whether the arguments and variables fit into a new process. -/
def fits (strings : List Bytes) : Bool :=
  strings.all (fun s => s.length + 1 ≤ argumentLimit) &&
    strings.foldl (fun room s => room + (s.length + 1 + 8)) 0 ≤ totalLimit

/-- The program behind a path and the arguments it is run with. A script is run by its
    interpreter, with the path of the script in place of the name it was called by. -/
def load (programs : Programs) (fs : FileSystem) (start : Location) (busy : List NodeId)
    (arguments : List Bytes) :
    (interpreters : Nat) → Path → Except Errno (Program × List Bytes)
  | 0, _ => .error .tooManyLinks
  | interpreters + 1, path => do
    let found ← fs.locate start path
    match fs.node? found.node with
    | some (.file mode content) =>
      if !FileSystem.runnable mode then .error .permissionDenied
      else if busy.contains found.node then .error .textBusy
      else match Image.ofContent content with
        | .unreadable => .error .badFormat
        | .interpreted interpreter argument =>
          -- The interpreter gets its own argument first, then the script and its arguments.
          load programs fs start busy
            (interpreter.bytes :: argument.toList ++ path.bytes :: arguments.drop 1)
            interpreters interpreter
        | .machineCode =>
          match programs content with
          | some program => .ok (program, arguments)
          | none => .error .badFormat
    | _ => .error .permissionDenied

/-- Runs the program behind a path as the given process. Programs that it starts in turn may be
    nested `depth` deep. -/
def run (programs : Programs) : (depth : Nat) → Launcher
  | 0, _, _, _ => .error .tryAgain
  | depth + 1, process, path, w => do
    -- A program cannot be run while its file is open for writing.
    let busy := [process.output, process.errors].filterMap Outlet.openNode?
    let (program, arguments) ←
      load programs w.files process.directory busy process.arguments interpreterLimit path
    if !fits (process.arguments ++ process.vars.listing) then .error .argumentsTooLong
    .ok (program (run programs depth) { process with arguments } w)

/-- The launcher of the system. -/
def launcher (programs : Programs) : Launcher := run programs nestingLimit

/-- Where programs are searched if `PATH` says nothing. -/
def defaultSearchPath : Bytes := Bytes.ofString "/bin:/usr/bin"

/-- The byte between the directories of `PATH`. -/
def searchSeparator : UInt8 := 58

/-- The interpreter of programs that name none, where a search finds such a program. -/
def fallbackInterpreter : Path := Path.ofString "/bin/sh"

/-- Runs a program, and one that the system cannot load as a script of the fallback interpreter. -/
def runOrInterpret (launch : Launcher) (process : Process) (path : Path) (w : World) :
    Except Errno Ended :=
  match launch process path w with
  | .error reason =>
    if reason = .badFormat then
      let arguments :=
        fallbackInterpreter.bytes :: path.bytes :: process.arguments.drop 1
      launch { process with arguments } fallbackInterpreter w
    else .error reason
  | .ok ended => .ok ended

/-- Tries the directories of a search path in order. A missing program and one that may not be
    run are passed over; the latter decides the reason if nothing else is found. -/
def searchIn (launch : Launcher) (process : Process) (name : Bytes) (w : World)
    (last : Errno) (denied : Bool) : List Bytes → Except Errno Ended
  | [] => .error (if denied then .permissionDenied else last)
  | directory :: rest =>
    let path : Path := ⟨directory ++ (if directory.isEmpty then [] else [Path.separator]) ++ name⟩
    match runOrInterpret launch process path w with
    | .ok ended => .ok ended
    | .error reason =>
      if reason = .permissionDenied then searchIn launch process name w reason true rest
      else if reason = .notFound ∨ reason = .notDirectory then
        searchIn launch process name w reason denied rest
      else .error reason

/-- Runs a program by name along the directories of the `PATH` in the process's variables. A name
    with a separator is a path, and is run as such. -/
def search (launch : Launcher) (process : Process) (name : Bytes) (w : World) :
    Except Errno Ended :=
  if name.isEmpty then .error .notFound
  else if name.contains Path.separator then runOrInterpret launch process ⟨name⟩ w
  else if name.length > FileSystem.nameLimit then .error .nameTooLong
  else
    let path := (Variables.get? process.vars "PATH").getD defaultSearchPath
    searchIn launch process name w .notFound false (Bytes.splitOn searchSeparator path)

end Execution

end CommandShell

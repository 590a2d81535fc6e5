import CommandShell.LineExecution

namespace CommandShell

/-!
# Script — running the lines of a text

* `Shell.settle` — reports a failure that the session survives, and hands on one that it does not;
* `Shell.runLines` — runs lines one after the other, until one ends the session;
* `Shell.runScript` — runs the lines of a text;
* `Shell.runFile` — runs the lines of an opened file, which is read block by block.
-/

namespace Shell

/-- The shell after a line. A failure that ends the session is handed on, any other is reported. -/
def settle (o : Outcome Failure) : Except Failure Unit × Shell :=
  match o.result with
  | .ok _ => (.ok (), o.shell)
  | .error failure =>
    if failure.isFatal then (.error failure, o.shell)
    else (.ok (), o.shell.complain (failure.message ++ "\n"))

/-- Runs one line of a script: drops the jobs that have ended, and executes. -/
def runLine (sh : Shell) (line : Bytes) : Except Failure Unit × Shell :=
  settle (sh.reap.1.execute line.toStringLossy {})

/-- Runs lines until one ends the session, by a failure or by leaving. There is no verdict if none
    does, so that further lines may follow. The shell's process may end with a line as well; then
    nobody gets the verdict. -/
def runLines (sh : Shell) : List Bytes → Option (Except Failure Unit) × Shell
  | [] => (none, sh)
  | line :: rest =>
    match sh.runLine line with
    | (.error failure, sh) => (some (.error failure), sh)
    | (.ok (), sh) => if sh.stops then (some (.ok ()), sh) else sh.runLines rest

/-- The lines of a supply, and the failure that stands after them. What comes before a failure is a
    line only if a newline ends it. -/
def linesOf (script : Supply) : List Bytes × Option Failure :=
  match script.failure with
  | none => (Bytes.lines script.pending, none)
  | some reason =>
    ((Bytes.splitOn Bytes.newline script.pending).dropLast, some (.io (.os reason)))

/-- Runs the lines of a text. -/
def runScript (sh : Shell) (script : Supply) : Except Failure Unit × Shell :=
  let (lines, trouble) := linesOf script
  match sh.runLines lines with
  | (some verdict, sh) => (verdict, sh)
  | (none, sh) =>
    match trouble with
    | some failure => (.error failure, sh)
    | none => (.ok (), sh)

/-- How many bytes of a script file are read at a time. -/
def blockSize : Nat := 8192

/-- Runs the lines of a file from a handle on; `kept` begins the next line. The file is read block
    by block, so lines that a command adds to it are run as well; there is no outcome if they never
    come to an end. -/
def runBlocks (sh : Shell) (handle : Handle) (kept : Bytes) :
    Option (Except Failure Unit × Shell) :=
  match sh.host.world.files.content handle.node with
  | .error reason => some (.error (.io (.os reason)), sh)
  | .ok content =>
    let block := (content.drop handle.offset).take blockSize
    if block.isEmpty ∧ kept.isEmpty then some (.ok (), sh)
    else
      -- The last piece may go on in the next block; at the end of the file it is a line.
      let pieces :=
        if block.isEmpty then [kept, []] else Bytes.splitOn Bytes.newline (kept ++ block)
      match sh.runLines pieces.dropLast with
      | (some verdict, sh) => some (verdict, sh)
      | (none, sh) =>
        sh |>.runBlocks { handle with offset := handle.offset + block.length }
          (pieces.getLast?.getD [])
partial_fixpoint

/-- Runs the lines of an opened file. -/
def runFile (sh : Shell) (node : NodeId) : Option (Except Failure Unit × Shell) :=
  sh.runBlocks { node } []

end Shell

end CommandShell

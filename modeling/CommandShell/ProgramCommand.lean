import CommandShell.Lookup
import CommandShell.Session

namespace CommandShell

/-!
# ProgramCommand — running a program as a command

* `ProgramCommand` — the name and arguments of a command that is no built-in, and whether to wait;
* `ProgramCommand.request` — the child process it asks for;
* `ProgramCommand.refusal` — the failure that a refused child stands for;
* `ProgramCommand.run` — starts the program, and waits for it or records it as a job.
-/

/-- A command that is run by a program. -/
structure ProgramCommand where
  /-- The name as typed; the program is called by it. -/
  name : String
  /-- The arguments. -/
  arguments : List String
  /-- Whether the shell goes on without waiting. -/
  background : Bool
deriving DecidableEq, Repr

namespace ProgramCommand

/-- The command line that is recorded for a job. -/
def text (c : ProgramCommand) : String := " ".intercalate (c.name :: c.arguments)

/-- The program behind the name of the command. -/
def program? (c : ProgramCommand) (sh : Shell) : Option Path :=
  Lookup.find sh.host.world.files sh.host.directory (Lookup.searchPathOf sh.session.vars)
    sh.session.directory (Path.ofString c.name)

/-- The child process that the command asks for. -/
def request (c : ProgramCommand) (program : Path) (io : Streams) (sh : Shell) : Launch :=
  { program
    arguments := (c.name :: c.arguments).map Bytes.ofString
    vars := sh.session.vars
    directory := sh.session.directory
    input := io.input
    output := io.output }

/-- Whether the reason says that the program cannot be loaded, so that it costs its own line
    only. -/
def isLoadFailure : IoError → Bool
  | .os reason =>
    [Errno.notPermitted, .notFound, .badFormat, .permissionDenied].contains reason
  | _ => false

/-- The failure of a command whose child process was refused: a program that cannot be loaded, or
    else no process at all. -/
def refusal (c : ProgramCommand) (cause : IoError) : Failure :=
  if isLoadFailure cause then .launch c.name cause else .spawn c.name cause

/-- What is told about a job when it starts. -/
def notice (pid : Nat) : String := "[Running in background] PID: " ++ toString pid ++ "\n"

/-- Records a child as a job, and tells so on the shell's own standard output. -/
def record (c : ProgramCommand) (pid : Nat) (sh : Shell) : Shell :=
  let jobs := JobTable.add sh.session.jobs pid c.text
  Shell.print { sh with session := { sh.session with jobs } } (notice pid)

/-- Starts the program, and waits for it or records it as a job. -/
def run (c : ProgramCommand) (io : Streams) (sh : Shell) : Outcome CommandError :=
  let fail (failure : CommandError) : Outcome CommandError :=
    { result := .error failure, streams := io, shell := sh }
  match c.program? sh with
  | none => fail (.ofFailure (.launch c.name .commandNotFound))
  | some program =>
    -- What the shell has written so far is to come before what the child writes.
    match Streams.flush {} sh with
    | .error failure => fail failure
    | .ok () =>
      match sh.host.spawn (c.request program io sh) with
      | .error cause => fail (.ofFailure (c.refusal cause))
      | .ok (pid, started) =>
        let sh := { sh with host := started }
        if c.background then
          { result := .ok 0, streams := io, shell := c.record pid sh }
        else match started.wait pid with
          | .error cause => { result := .error (.ofIo cause), streams := io, shell := sh }
          | .ok (status, host) =>
            { result := .ok status.exitCode, streams := io, shell := { sh with host } }

end ProgramCommand

end CommandShell

import CommandShell.JobTable
import CommandShell.Failure

namespace CommandShell

/-!
# Session — what the shell remembers between lines

* `HelpSettings` — how the manual is shown;
* `Session` — variables, directory, jobs and whether to leave;
* `Shell` — a session on its host; `Shell.reap` drops the jobs that have ended;
* `Streams`, `Outcome` — the streams of a command, and what running it gives.
-/

/-- How the manual is shown. -/
structure HelpSettings where
  /-- The program that shows it. -/
  pager : String := "more"
  /-- The file with the manual. -/
  manual : Path := Path.ofString "../manual/readme.md"
deriving DecidableEq, Repr

/-- What the shell remembers between lines. -/
structure Session where
  /-- The variables that programs get. -/
  vars : Variables := {}
  /-- The directory that paths are read from. -/
  directory : Path
  /-- Whether to read no further line. -/
  exiting : Bool := false
  /-- The children that nobody waits for. -/
  jobs : JobTable := {}
  /-- How the manual is shown. -/
  help : HelpSettings := {}

/-- A session on its host. -/
structure Shell where
  /-- What the shell remembers. -/
  session : Session
  /-- The system around it. -/
  host : Host

namespace Shell

/-- Drops the jobs that have ended, and reports them. -/
def reap (sh : Shell) : Shell × List Finished :=
  let (jobs, finished) := JobTable.reap sh.session.jobs sh.host.poll
  let gone := (JobTable.pids sh.session.jobs).filter (!JobTable.goesOn sh.host.poll ·)
  ({ session := { sh.session with jobs }, host := sh.host.release gone }, finished)

/-- Gives a variable of the session a value. -/
def setVariable (sh : Shell) (name value : Bytes) : Shell :=
  { sh with session := { sh.session with vars := sh.session.vars.set name value } }

/-- Writes a message to the shell's own standard output. -/
def print (sh : Shell) (text : String) : Shell := { sh with host := sh.host.print text }

/-- Writes a message to the shell's own standard error output. -/
def complain (sh : Shell) (text : String) : Shell := { sh with host := sh.host.complain text }

/-- Whether the shell's process has ended because a message of its own could not be written. -/
def aborted (sh : Shell) : Bool := sh.host.world.shell.aborted

/-- Whether no further line is run: the session is to be left, or the shell's process has ended. -/
def stops (sh : Shell) : Bool := sh.session.exiting || sh.aborted

end Shell

/-- The code a command returns; zero is success. -/
abbrev ExitCode := Nat

/-- The standard streams of a command. -/
structure Streams where
  /-- Where it reads from. -/
  input : Inlet := .terminal
  /-- Where it writes to. -/
  output : Outlet := .terminal
deriving DecidableEq, Repr

/-- What running a command gives: a code or a failure, the streams as far as they were used, and
    the shell afterwards. -/
structure Outcome (ε : Type) where
  /-- The code, or why there is none. -/
  result : Except ε ExitCode
  /-- The streams afterwards. -/
  streams : Streams
  /-- The shell afterwards. -/
  shell : Shell

namespace Outcome

/-- The outcome with another kind of failure. -/
def mapError {ε δ : Type} (f : ε → δ) (o : Outcome ε) : Outcome δ :=
  { result := o.result.mapError f, streams := o.streams, shell := o.shell }

end Outcome

namespace Streams

/-- Writes bytes to the output of a command. -/
def write (io : Streams) (sh : Shell) (bytes : Bytes) :
    Except CommandError Unit × Streams × Shell :=
  let (result, output, world) := io.output.write sh.host.world bytes
  (result.mapError fun reason => .ofIo (.os reason), { io with output },
    { sh with host := { sh.host with world } })

/-- Reads a line from the input of a command and forgets it. -/
def skipLine (io : Streams) (sh : Shell) : Except CommandError Unit × Streams × Shell :=
  let (result, input, world) := io.input.readLine sh.host.world
  ((result.map fun _ => ()).mapError fun reason => .ofIo (.os reason), { io with input },
    { sh with host := { sh.host with world } })

/-- Asks for the output of a command to be passed on. -/
def flush (io : Streams) (sh : Shell) : Except CommandError Unit :=
  (io.output.flush sh.host.world).mapError fun reason => .ofIo (.os reason)

end Streams

end CommandShell

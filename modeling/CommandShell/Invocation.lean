import CommandShell.Dialogue
import CommandShell.Operands
import CommandShell.Settings

namespace CommandShell

/-!
# Invocation — the shell as a program

* `Shell.begin` — the session of a process that has just started;
* `Invocation.signature` — what the program says of itself;
* `Invocation.serve` — a session from its settings to its end: the commands of a batch file, or
  those that are asked for;
* `Invocation.run?` — reads the arguments, and serves, explains or complains. The exit code tells
  whether the session ended well, whatever codes its commands returned; a process that ended because
  it could not write a message has a code of its own.
-/

/-- The session of a process with the given variables. -/
def Shell.begin (h : Host) (vars : Variables) : Shell :=
  let directory := (h.world.files.currentPath? h.directory).getD ⟨Path.here⟩
  { session := { vars, directory }, host := h }

namespace Invocation

/-- What the program says of itself. -/
def signature : Signature :=
  { name := "myshell"
    description := "A small interactive command interpreter."
    form := .optional "batch_file" "file to read commands from instead of the terminal." }

/-- The code of a program that ended well. -/
def success : ExitCode := 0

/-- The code of a program that did not. -/
def failure : ExitCode := 1

/-- The code of a program whose process ended because it could not write a message. What the system
    then says of it is left out. -/
def abrupt : ExitCode := 101

/-- Ends the shell's process with a code, unless it has ended already. -/
def exit (code : ExitCode) (sh : Shell) : ExitCode × Shell :=
  (if sh.aborted then abrupt else code, sh)

/-- Runs the commands of a batch file. There is no outcome if they never come to an end. -/
def serveFile (sh : Shell) (path : Path) : Option (Except Failure Unit × Shell) :=
  match sh.host.world.files.openInput sh.host.directory path with
  | .error cause => some (.error (.batchFile path cause), sh)
  | .ok node => sh.runFile node

/-- The shell with its settings: a warning about them is written, the variable `SHELL` names the
    program, and interrupts no longer end it. The path of the program is always known: that the
    system cannot tell it is left out. -/
def prepare (sh : Shell) : Shell :=
  let (settings, warning) := Settings.load sh.host sh.session.vars
  let sh := sh.complain (warning.getD "")
  let sh := sh.setVariable (Bytes.ofString "SHELL") sh.host.executable.bytes
  let world := { sh.host.world with shell := { sh.host.world.shell with catchesInterrupt := true } }
  { session := { sh.session with help := settings.help }, host := { sh.host with world } }

/-- The exit code of a session that has ended. A failure that ended it is reported. -/
def finish (ended : Except Failure Unit × Shell) : ExitCode × Shell :=
  match ended with
  | (.ok (), sh) => exit success sh
  | (.error reason, sh) => exit failure (sh.complain (reason.message ++ "\n"))

/-- A session from its settings to its end, if it has one. It is not begun if the warning about the
    settings cannot be written. -/
def serve (sh : Shell) (batchFile : Option Path) : Option (ExitCode × Shell) :=
  let sh := prepare sh
  if sh.aborted then some (exit failure sh)
  else match batchFile with
    | some path => (serveFile sh path).map finish
    | none => some (finish sh.converse)

/-- What is said about an argument that is no text. -/
def invalidText (argument : Bytes) : String := "Invalid utf8: " ++ argument.toStringLossy ++ "\n"

/-- What is said after a complaint about the arguments. -/
def advice : String := "\nRun " ++ signature.name ++ " --help for more information.\n"

/-- Reads the arguments, and serves, explains or complains; none if the session has no end. -/
def run? (h : Host) (arguments : List Bytes) (vars : Variables) : Option (ExitCode × Shell) :=
  let sh := Shell.begin h vars
  match arguments.find? (·.toString?.isNone) with
  | some argument => some (exit failure (sh.complain (invalidText argument)))
  | none =>
    match signature.read (arguments.map Bytes.toStringLossy) with
    | .accepted operands => serve sh (operands.head?.map Path.ofString)
    | .usage => some (exit success (sh.print (signature.usage ++ "\n")))
    | .rejected message => some (exit failure (sh.complain (message ++ advice)))

/-- `run?` for who waits for the end: it gives nothing before, so that the failure in its place is
    never seen. -/
def run (h : Host) (arguments : List Bytes) (vars : Variables) : ExitCode × Shell :=
  (run? h arguments vars).getD (failure, Shell.begin h vars)

end Invocation

end CommandShell

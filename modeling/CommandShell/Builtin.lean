import CommandShell.Operands
import CommandShell.Session

namespace CommandShell

/-!
# Builtin — the commands that are part of the shell

* `Builtin` — the commands by name; `Builtin.signature?` is what each says of itself;
* `Builtin.read` — what its arguments ask for;
* `Builtin.perform` — what it does with accepted operands;
* `Builtin.run` — reads the arguments, and performs, explains or complains.

A built-in command works in the shell's own process, on the streams it is given. `help` alone
starts a program.
-/

/-- The commands that are part of the shell. -/
inductive Builtin where
  /-- Changes the directory. -/
  | cd
  /-- Clears the terminal. -/
  | clr
  /-- Lists a directory. -/
  | dir
  /-- Prints the variables. -/
  | environ
  /-- Prints its arguments. -/
  | echo
  /-- Shows the manual. -/
  | help
  /-- Waits for a line. -/
  | pause
  /-- Leaves the shell. -/
  | quit
  /-- Lists the jobs. -/
  | jobs
deriving DecidableEq, Repr

namespace Builtin

/-- The name that calls a command. -/
def name : Builtin → String
  | .cd => "cd"
  | .clr => "clr"
  | .dir => "dir"
  | .environ => "environ"
  | .echo => "echo"
  | .help => "help"
  | .pause => "pause"
  | .quit => "quit"
  | .jobs => "jobs"

/-- Every command. -/
def all : List Builtin := [.cd, .clr, .dir, .environ, .echo, .help, .pause, .quit, .jobs]

/-- The command of a name. -/
def ofName? (word : String) : Option Builtin := all.find? (·.name = word)

/-- What the command does, in words. -/
def description : Builtin → String
  | .cd =>
    "Change the current working directory. " ++
      "Without a target, print the current working directory instead."
  | .clr => "Clear the terminal screen."
  | .dir => "List the entries of a directory, one name per line, unsorted."
  | .environ => "Print every environment variable as NAME=value."
  | .echo =>
    "Write the arguments to standard output, each followed by a space, then a newline."
  | .help => "Show the user manual through the configured pager."
  | .pause => "Wait until Enter is pressed."
  | .quit => "Leave the shell. Background jobs are left running."
  | .jobs => "List background jobs that are still running."

/-- The operands that the command takes. -/
def form : Builtin → OperandForm
  | .cd =>
    .optional "target" "directory to switch to; absolute or relative to the current directory."
  | .dir => .optional "directory" "directory to list. Defaults to the current directory."
  | _ => .ignored

/-- What the command says of itself. -/
def signature (b : Builtin) : Signature :=
  { name := b.name, description := b.description, form := b.form }

/-- What the arguments of the command ask for. `echo` takes all words as they are. -/
def read (b : Builtin) (arguments : List String) : Reading :=
  match b with
  | .echo => .accepted arguments
  | _ => b.signature.read arguments

/-! ### What the commands do -/

/-- The outcome of an attempt that gives no code of its own: success, or the failure. -/
def done (attempt : Except CommandError Unit × Streams × Shell) : Outcome CommandError :=
  { result := attempt.1.map fun _ => 0, streams := attempt.2.1, shell := attempt.2.2 }

/-- Goes to a directory. The session keeps its canonical path, also as the variable `PWD`. -/
def goTo (sh : Shell) (target : String) : Except CommandError Shell :=
  let path := sh.session.directory.join (Path.ofString target)
  match sh.host.world.files.canonicalize sh.host.directory path with
  | .error cause => .error ((CommandError.ofIo cause).within ("cd: " ++ target))
  | .ok found =>
    let directory := found.path
    match sh.host.changeDirectory directory with
    | .error cause =>
      .error ((CommandError.ofIo cause).within ("cd: can't chdir to " ++ directory.display))
    | .ok host =>
      -- The directory of the process, that of the session and `PWD` change together, or not at all.
      let moved : Shell := { session := { sh.session with directory }, host }
      .ok (moved.setVariable (Bytes.ofString "PWD") directory.bytes)

/-- Goes to the directory named by the operand; without one, prints where the session is. -/
def changeDirectory (operand : Option String) (io : Streams) (sh : Shell) :
    Outcome CommandError :=
  match operand with
  | none => done (io.write sh (Bytes.ofString (sh.session.directory.display ++ "\n")))
  | some target =>
    match goTo sh target with
    | .error failure => { result := .error failure, streams := io, shell := sh }
    | .ok moved => { result := .ok 0, streams := io, shell := moved }

/-- The sequence that moves the cursor home and erases the screen from there. -/
def clearSequence : String := "\x1b[H\x1b[J"

/-- The listing of a directory: the directory itself and the one above, then its entries. -/
def listing (names : List Bytes) : String :=
  ".\n..\n" ++ String.join (names.map fun name => name.toStringLossy ++ "\n")

/-- Lists the directory named by the operand, or that of the session. A directory that could be
    opened is read to its end: that an entry cannot be read is left out. -/
def listDirectory (operand : Option String) (io : Streams) (sh : Shell) : Outcome CommandError :=
  let shown := operand.getD "."
  let path := sh.session.directory.join (Path.ofString shown)
  match sh.host.world.files.readDirectory sh.host.directory path with
  | .error cause =>
    { result := .error ((CommandError.ofIo cause).within ("dir: cannot open " ++ shown))
      streams := io
      shell := sh }
  | .ok names => done (io.write sh (Bytes.ofString (listing names)))

/-- Every variable on a line of its own. -/
def variableLines (vars : Variables) : Bytes :=
  vars.listing.flatMap (· ++ [Bytes.newline])

/-- The words, each followed by a space, on a line. -/
def echoLine (words : List String) : String := String.join (words.map (· ++ " ")) ++ "\n"

/-- What is written before waiting for a line. -/
def pauseMessage : String := "Press Enter to continue..."

/-- Asks for a line and waits for it. -/
def awaitLine (io : Streams) (sh : Shell) : Outcome CommandError :=
  match io.write sh (Bytes.ofString pauseMessage) with
  | (.error failure, io, sh) => { result := .error failure, streams := io, shell := sh }
  | (.ok (), io, sh) =>
    match io.flush sh with
    | .error failure => { result := .error failure, streams := io, shell := sh }
    | .ok () => done (io.skipLine sh)

/-- The code of a pager that a signal ended. -/
def pagerKilled : ExitCode := 1

/-- Shows the manual: starts the pager with the manual as its argument, and waits for it. -/
def showManual (io : Streams) (sh : Shell) : Outcome CommandError :=
  let settings := sh.session.help
  let pager := Bytes.ofString settings.pager
  let fail (cause : IoError) : Outcome CommandError :=
    let failure :=
      (CommandError.ofIo cause).within ("help: cannot start pager '" ++ settings.pager ++ "'")
    { result := .error failure, streams := io, shell := sh }
  match Streams.flush {} sh with
  | .error failure => { result := .error failure, streams := io, shell := sh }
  | .ok () =>
    let request : Launch :=
      { program := ⟨pager⟩
        arguments := [pager, settings.manual.bytes]
        vars := sh.session.vars
        directory := sh.session.directory
        input := io.input
        output := io.output }
    match sh.host.spawn request with
    | .error cause => fail cause
    | .ok (pid, started) =>
      match started.wait pid with
      | .error cause => fail cause
      | .ok (status, host) =>
        { result := .ok (status.code?.getD pagerKilled), streams := io, shell := { sh with host } }

/-- Drops the jobs that have ended, and lists the others. -/
def listJobs (io : Streams) (sh : Shell) : Outcome CommandError :=
  let reaped := sh.reap.1
  done (io.write reaped (Bytes.ofString (JobTable.listing reaped.session.jobs)))

/-- What the command does with its operands. -/
def perform (b : Builtin) (operands : List String) (io : Streams) (sh : Shell) :
    Outcome CommandError :=
  match b with
  | .cd => changeDirectory operands.head? io sh
  | .clr => done (io.write sh (Bytes.ofString clearSequence))
  | .dir => listDirectory operands.head? io sh
  | .environ => done (io.write sh (variableLines sh.session.vars))
  | .echo => done (io.write sh (Bytes.ofString (echoLine operands)))
  | .help => showManual io sh
  | .pause => awaitLine io sh
  | .quit =>
    { result := .ok 0
      streams := io
      shell := { sh with session := { sh.session with exiting := true } } }
  | .jobs => listJobs io sh

/-- Asks for the output of a command that succeeded to be passed on. -/
def settle (o : Outcome CommandError) : Outcome CommandError :=
  match o.result with
  | .error _ => o
  | .ok code => { o with result := (o.streams.flush o.shell).map fun () => code }

/-- The code of a command whose arguments it does not take. -/
def misused : ExitCode := 1

/-- Reads the arguments; then performs the command, explains it on its output, or complains. The
    output of `help` is that of the pager, so there is nothing to pass on. -/
def run (b : Builtin) (arguments : List String) (io : Streams) (sh : Shell) :
    Outcome CommandError :=
  match b.read arguments with
  | .accepted operands =>
    let o := b.perform operands io sh
    if b = .help then o else settle o
  | .usage => done (io.write sh (Bytes.ofString (trimBlankEnd b.signature.usage ++ "\n")))
  -- Complaints go to the shell's own error output, wherever the output of the command goes.
  | .rejected message =>
    { result := .ok misused, streams := io, shell := sh.complain (trimBlankEnd message ++ "\n") }

end Builtin

end CommandShell

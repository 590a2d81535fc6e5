import CommandShell.Builtin
import CommandShell.CommandLine
import CommandShell.ProgramCommand

namespace CommandShell

/-!
# LineExecution — running one command line

A line is read, the files of its directives are opened, and then its command is run on them.

* `Shell.invoke` — runs a command by name: a built-in, or else a program;
* `Shell.execute` — runs a line on given streams, which stay as they are where a file stands in;
* `Shell.call` — runs a command on the shell's own streams, its failure classified.
-/

namespace OpenedFiles

/-- The streams of a command: the opened files, and those of the caller where there is none. -/
def streams (files : OpenedFiles) (io : Streams) : Streams :=
  { input := (files.input.map Inlet.file).getD io.input
    output := (files.output.map Outlet.file).getD io.output }

/-- The streams of the caller after a command: those that it did not get are as before. -/
def restore (files : OpenedFiles) (before after : Streams) : Streams :=
  { input := if files.input.isSome then before.input else after.input
    output := if files.output.isSome then before.output else after.output }

end OpenedFiles

namespace Shell

/-- Runs a command by name: a built-in, or else a program. -/
def invoke (sh : Shell) (name : String) (arguments : List String) (background : Bool)
    (io : Streams) : Outcome CommandError :=
  match Builtin.ofName? name with
  | some builtin => builtin.run arguments io sh
  | none => ProgramCommand.run ⟨name, arguments, background⟩ io sh

/-- Runs a line that was read, on files where it names some and else on the streams of the
    caller. -/
def executeParsed (sh : Shell) (line : CommandLine) (io : Streams) : Outcome Failure :=
  let (opened, host) :=
    Redirection.openAll sh.session.directory sh.host line.redirections
  -- The files are opened even if nothing is run on them, and those before a failure stay.
  let sh := { sh with host }
  match opened with
  | .error failure => { result := .error failure, streams := io, shell := sh }
  | .ok files =>
    match line.name? with
    | none => { result := .ok 0, streams := io, shell := sh }
    | some name =>
      let o := sh.invoke name line.arguments line.background (files.streams io)
      { result := o.result.mapError CommandError.classify
        streams := files.restore io o.streams
        shell := o.shell }

/-- Runs a line. A line without words, and one that holds directives only, succeeds without
    running anything. -/
def execute (sh : Shell) (line : String) (io : Streams) : Outcome Failure :=
  match CommandLine.parse line with
  | .error failure => { result := .error failure, streams := io, shell := sh }
  | .ok none => { result := .ok 0, streams := io, shell := sh }
  | .ok (some parsed) => sh.executeParsed parsed io

/-- Runs a command by name on the shell's own streams, waiting for it. -/
def call (sh : Shell) (name : String) (arguments : List String) : Outcome Failure :=
  (sh.invoke name arguments false {}).mapError CommandError.classify

end Shell

end CommandShell

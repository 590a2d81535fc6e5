import CommandShell.Invocation

namespace CommandShell

/-!
# ShellProgram — the shell as a program of the system

The shell can be started like any other program, also from a shell. The standard streams of its
process are then those that it is started with:

* `Supply.ofInlet`, `Capture.ofOutlet` — what can be read and written there;
* `ShellProgram.host` — the system around the shell of a process;
* `ShellProgram.program` — the program.

Of its input it takes what it reads. What it writes arrives where its streams lead once it has ended.
-/

/-- What can be read from an inlet. -/
def Supply.ofInlet (inlet : Inlet) (w : World) : Supply :=
  match inlet with
  | .memory supply => supply
  | .terminal => w.terminal.input
  | inlet => { pending := (inlet.readAll w).1.toOption.getD [] }

/-- The room that an outlet has, and how writing there fails. -/
def Capture.ofOutlet (outlet : Outlet) (w : World) : Capture :=
  match outlet with
  | .memory capture => { capture with written := [] }
  | .terminal => { w.terminal.output with written := [] }
  | .diagnostics => { w.terminal.errors with written := [] }
  | .file handle =>
    match w.files.node? handle.node with
    | some (.device .full) => { room := some (0, .noSpace), flushFailure := some .noSpace }
    | _ => {}
  | .discard => {}

namespace ShellProgram

/-- The system around the shell of a process. -/
def host (programs : Programs) (executable accountHome : Path) (process : Process) (w : World) :
    Host :=
  { world :=
      { w with
        terminal :=
          { input := .ofInlet process.input w
            output := .ofOutlet process.output w
            errors := .ofOutlet process.errors w }
        shell := { pid := process.pid } }
    programs
    directory := process.directory
    mask := process.mask
    executable
    accountHome }

/-- The shell as a program, on a system with the given programs. -/
def program (programs : Programs) (executable accountHome : Path) : Program :=
  fun _ process w =>
    let before := host programs executable accountHome process w
    let (code, sh) := Invocation.run before (process.arguments.drop 1) process.vars
    let own := sh.host.world.terminal
    -- Outside, the streams are used as far as the shell used its own.
    let used := before.world.terminal.input.pending.length - own.input.pending.length
    let outer : World := { sh.host.world with terminal := w.terminal, shell := w.shell }
    let (_, input, outer) := process.input.read outer used
    let (_, output, outer) := process.output.write outer own.output.written
    let (_, errors, outer) := process.errors.write outer own.errors.written
    { world := outer, input, output, errors, status := .exited code, elapsed := sh.host.clock }

end ShellProgram

end CommandShell

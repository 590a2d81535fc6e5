import CommandShell.LineEditor
import CommandShell.Prompt
import CommandShell.Script

namespace CommandShell

/-!
# Dialogue — asking for lines and running them

* `Entry` — what asking for a line gives;
* `Shell.offer`, `Shell.ask` — shows the prompt and asks for a line, on the shell's own standard
  streams;
* `Shell.converse` — asks and runs until the session ends.

The standard input is no terminal here: lines are read as they are, and the prompt is only shown
where the variable `TERM` says that the terminal knows nothing better.
-/

/-- What asking for a line gives. -/
inductive Entry where
  /-- A line. -/
  | line (text : String)
  /-- The end of the input. -/
  | finished
  /-- Nothing, because reading failed. -/
  | failed (cause : IoError)
deriving DecidableEq, Repr

namespace Shell

/-- The prompt of the session. -/
def prompt (sh : Shell) : String :=
  let vars := sh.session.vars
  Prompt.render (Variables.getText? vars "USER")
    ((Variables.getText? vars "HOME").map Path.ofString) sh.session.directory

/-- The terminals that can do nothing but show text. -/
def plainTerminals : List String := ["dumb", "cons25", "emacs"]

/-- Whether the prompt is shown though the input is no terminal. -/
def showsPrompt (sh : Shell) : Bool :=
  match Variables.getText? sh.session.vars "TERM" with
  | none => false
  | some kind => plainTerminals.contains kind.toLower

/-- What bytes up to the end of a line come to. -/
def entryOf (read : Except Errno Bytes) : Entry :=
  match read with
  | .error reason => .failed (.os reason)
  | .ok [] => .finished
  | .ok typed =>
    match Utf8.decode? typed with
    | none => .failed .invalidText
    | some cs => .line (String.ofList (LineEditor.edit cs))

/-- Shows the prompt, if it is to be shown. -/
def offer (sh : Shell) : Except Errno Unit × Shell :=
  if sh.showsPrompt then
    let (result, _, world) := Outlet.terminal.write sh.host.world (Bytes.ofString sh.prompt)
    (result.bind fun () => Outlet.terminal.flush world, { sh with host := { sh.host with world } })
  else (.ok (), sh)

/-- Asks for a line: shows the prompt if it is to be shown, and reads. Nothing is read where the
    prompt cannot be shown. -/
def ask (sh : Shell) : Entry × Shell :=
  match sh.offer with
  | (.error reason, sh) => (.failed (.os reason), sh)
  | (.ok (), sh) =>
    let (read, _, world) := Inlet.terminal.readLine sh.host.world
    (entryOf read, { sh with host := { sh.host with world } })

/-- What is said at the end of the input. -/
def farewell : String := "\nExiting myshell...\n"

/-- Asks for lines and runs them, at most `rounds` of them. -/
def converseFor (sh : Shell) : (rounds : Nat) → Except Failure Unit × Shell
  | 0 => (.ok (), sh)
  | rounds + 1 =>
    if sh.stops then (.ok (), sh)
    else
      -- Jobs are looked after before each line, so one that has ended is gone before the next runs.
      match sh.reap.1.ask with
      | (.finished, sh) => (.ok (), sh.print farewell)
      | (.failed cause, sh) => (.error (.lineReader cause), sh)
      | (.line text, sh) =>
        match settle (sh.execute text {}) with
        | (.error failure, sh) => (.error failure, sh)
        | (.ok (), sh) => sh.converseFor rounds

/-- Asks for lines and runs them until the session ends: by leaving, by a failure, by the end of the
    shell's process, or by the end of the input. Each line takes at least one byte of the input, and
    the end takes none. -/
def converse (sh : Shell) : Except Failure Unit × Shell :=
  sh.converseFor (sh.host.world.terminal.input.pending.length + 2)

end Shell

end CommandShell

import CommandShell.FileSystem.Change

namespace CommandShell

/-!
# Channel — where bytes come from and go to

* `Supply`, `Capture` — bytes that wait to be read and bytes that were written, in memory; both
  may be told to fail at some point;
* `Terminal` — the standard input, output and error output of the shell's own process;
* `World` — what every process shares: the files, the terminal and the shell's process;
* `Inlet`, `Outlet` — the channels a command reads from and writes to;
* `Inlet.readAll`, `Inlet.readLine`, `Inlet.read`, `Outlet.write`, `Outlet.flush` — using them.
-/

/-- Bytes that wait to be read, and what happens once they are used up: the end, or a failure. -/
structure Supply where
  /-- The bytes that were not read yet. -/
  pending : Bytes := []
  /-- The failure that stands in place of the end. -/
  failure : Option Errno := none
deriving DecidableEq, Repr, Inhabited

/-- Bytes that were written. -/
structure Capture where
  /-- The bytes in the order they were written. -/
  written : Bytes := []
  /-- How many more bytes are taken before writing fails, and how it fails; no bound if absent. -/
  room : Option (Nat × Errno) := none
  /-- The failure of every flush. -/
  flushFailure : Option Errno := none
deriving DecidableEq, Repr, Inhabited

namespace Supply

/-- Reads at most `count` bytes. Nothing is read at the end, unless the supply fails there. -/
def take (s : Supply) (count : Nat) : Except Errno Bytes × Supply :=
  match s.pending, s.failure with
  | [], some reason => if count = 0 then (.ok [], s) else (.error reason, s)
  | pending, _ => (.ok (pending.take count), { s with pending := pending.drop count })

/-- Reads everything up to the end. -/
def takeAll (s : Supply) : Except Errno Bytes × Supply :=
  match s.failure with
  | some reason => (.error reason, { s with pending := [] })
  | none => (.ok s.pending, { s with pending := [] })

/-- Reads up to and including the next newline, or to the end. -/
def takeLine (s : Supply) : Except Errno Bytes × Supply :=
  let line := s.pending.takeWhile (· ≠ Bytes.newline)
  match s.pending.drop line.length, s.failure with
  | _ :: rest, _ => (.ok (line ++ [Bytes.newline]), { s with pending := rest })
  | [], some reason => (.error reason, { s with pending := [] })
  | [], none => (.ok line, { s with pending := [] })

end Supply

namespace Capture

/-- Writes all the bytes, or as many as there is room for and then fails. -/
def put (c : Capture) (bytes : Bytes) : Except Errno Unit × Capture :=
  match c.room with
  | none => (.ok (), { c with written := c.written ++ bytes })
  | some (room, reason) =>
    let kept := bytes.take room
    let after := { c with written := c.written ++ kept, room := some (room - bytes.length, reason) }
    (if room < bytes.length then .error reason else .ok (), after)

/-- Asks for what was written to be passed on. -/
def flush (c : Capture) : Except Errno Unit :=
  match c.flushFailure with
  | some reason => .error reason
  | none => .ok ()

end Capture

/-- The standard streams of the shell's own process. -/
structure Terminal where
  /-- Standard input. -/
  input : Supply := {}
  /-- Standard output. -/
  output : Capture := {}
  /-- Standard error output. -/
  errors : Capture := {}
deriving DecidableEq, Repr, Inhabited

/-- A signal, by its number. -/
structure Signal where
  /-- The number. -/
  number : Nat
deriving DecidableEq, Repr, Inhabited

namespace Signal

/-- What the interrupt key sends. -/
def interrupt : Signal := ⟨2⟩

/-- What no process can catch. -/
def kill : Signal := ⟨9⟩

/-- Whether the signal ends a process that does not catch it. Number zero is no signal; the
    others that do not end a process stop it, let it go on, or tell it news. -/
def isDeadly (s : Signal) : Bool :=
  !([0, 17, 18, 19, 20, 21, 22, 23, 28].contains s.number)

end Signal

/-- The shell as other processes see it. -/
structure ShellProcess where
  /-- Its process id. -/
  pid : Nat
  /-- Whether it answers an interrupt with an empty line instead of ending. -/
  catchesInterrupt : Bool := false
  /-- Whether it has ended because a message of its own could not be written. -/
  aborted : Bool := false
deriving DecidableEq, Repr, Inhabited

/-- What every process shares. -/
structure World where
  /-- The files. -/
  files : FileSystem
  /-- The standard streams of the shell's process. -/
  terminal : Terminal
  /-- The shell's process. -/
  shell : ShellProcess
  /-- The id that the next process gets. -/
  nextPid : Nat
deriving Inhabited

/-- A file opened for reading or writing. -/
structure Handle where
  /-- The file. -/
  node : NodeId
  /-- Where the next byte is read from or written to. -/
  offset : Nat := 0
  /-- Whether every write goes to the end of the file. -/
  append : Bool := false
deriving DecidableEq, Repr, Inhabited

/-- Where a command reads from. -/
inductive Inlet where
  /-- Nothing, and at once the end. -/
  | nothing
  /-- Bytes in the memory of the shell. -/
  | memory (supply : Supply)
  /-- The standard input of the shell's process. -/
  | terminal
  /-- An opened file. -/
  | file (handle : Handle)
deriving DecidableEq, Repr, Inhabited

/-- Where a command writes to. -/
inductive Outlet where
  /-- Nowhere. -/
  | discard
  /-- The memory of the shell. -/
  | memory (capture : Capture)
  /-- The standard output of the shell's process. -/
  | terminal
  /-- The standard error output of the shell's process. -/
  | diagnostics
  /-- An opened file. -/
  | file (handle : Handle)
deriving DecidableEq, Repr, Inhabited

namespace Inlet

/-- Reads with a reader of supplies. A file is read from its offset on, as a supply of the bytes
    that are there. -/
def readBy (inlet : Inlet) (w : World) (reader : Supply → Except Errno Bytes × Supply) :
    Except Errno Bytes × Inlet × World :=
  match inlet with
  | .nothing => (.ok [], inlet, w)
  | .memory supply =>
    let (result, rest) := reader supply
    (result, .memory rest, w)
  | .terminal =>
    let (result, rest) := reader w.terminal.input
    (result, .terminal, { w with terminal := { w.terminal with input := rest } })
  | .file handle =>
    match w.files.content handle.node with
    | .error reason => (.error reason, inlet, w)
    | .ok content =>
      let ahead := content.drop handle.offset
      let (result, rest) := reader { pending := ahead }
      let offset := handle.offset + (ahead.length - rest.pending.length)
      (result, .file { handle with offset := offset }, w)

/-- Reads at most `count` bytes. -/
def read (inlet : Inlet) (w : World) (count : Nat) : Except Errno Bytes × Inlet × World :=
  inlet.readBy w (·.take count)

/-- Reads everything up to the end. -/
def readAll (inlet : Inlet) (w : World) : Except Errno Bytes × Inlet × World :=
  inlet.readBy w Supply.takeAll

/-- Reads up to and including the next newline, or to the end. -/
def readLine (inlet : Inlet) (w : World) : Except Errno Bytes × Inlet × World :=
  inlet.readBy w Supply.takeLine

/-- The inlet of a child process: the memory of the shell is out of its reach. -/
def forChild : Inlet → Inlet
  | .memory _ => .nothing
  | inlet => inlet

end Inlet

namespace Outlet

/-- Writes all the bytes, or as many as the outlet takes and then fails. -/
def write (outlet : Outlet) (w : World) (bytes : Bytes) : Except Errno Unit × Outlet × World :=
  match outlet with
  | .discard => (.ok (), outlet, w)
  | .memory capture =>
    let (result, after) := capture.put bytes
    (result, .memory after, w)
  | .terminal =>
    let (result, after) := w.terminal.output.put bytes
    (result, outlet, { w with terminal := { w.terminal with output := after } })
  | .diagnostics =>
    let (result, after) := w.terminal.errors.put bytes
    (result, outlet, { w with terminal := { w.terminal with errors := after } })
  | .file handle =>
    let start := if handle.append then
        match w.files.content handle.node with
        | .ok content => content.length
        | .error _ => handle.offset
      else handle.offset
    match w.files.write handle.node start bytes with
    | .error reason => (.error reason, outlet, w)
    | .ok files =>
      (.ok (), .file { handle with offset := start + bytes.length }, { w with files := files })

/-- Asks for what was written to be passed on. -/
def flush (outlet : Outlet) (w : World) : Except Errno Unit :=
  match outlet with
  | .memory capture => capture.flush
  | .terminal => w.terminal.output.flush
  | .diagnostics => w.terminal.errors.flush
  | _ => .ok ()

/-- The outlet of a child process: the memory of the shell is out of its reach. -/
def forChild : Outlet → Outlet
  | .memory _ => .discard
  | outlet => outlet

/-- The node that an outlet keeps open for writing. -/
def openNode? : Outlet → Option NodeId
  | .file handle => some handle.node
  | _ => none

end Outlet

namespace World

/-- Writes a message of the shell's process. The process ends there if that fails: what comes after
    a message relies on its having been written. -/
def tell (w : World) (outlet : Outlet) (bytes : Bytes) : World :=
  let (result, _, after) := outlet.write w bytes
  { after with shell := { after.shell with aborted := after.shell.aborted || !result.isOk } }

/-- Writes a message to the standard output of the shell's process. -/
def print (w : World) (bytes : Bytes) : World := w.tell .terminal bytes

/-- Writes a message to the standard error output of the shell's process. -/
def complain (w : World) (bytes : Bytes) : World := w.tell .diagnostics bytes

/-- Sends an interrupt to the shell's process: if it catches interrupts, it writes an empty line, or
    tries to, and goes on. -/
def interruptShell (w : World) : World :=
  if w.shell.catchesInterrupt then (Outlet.terminal.write w [Bytes.newline]).2.2 else w

end World

end CommandShell

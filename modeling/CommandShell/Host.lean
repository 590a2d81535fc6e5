import CommandShell.Execution

namespace CommandShell

/-!
# Host — the system around the shell

* `Host` — the shared world, the programs that the system knows, the directory the shell's process
  works in, its children and the time;
* `Launch` — a request for a child process;
* `Host.spawn`, `Host.wait`, `Host.poll` — starting a child, and finding out how it ended;
* `Host.changeDirectory` — moving the shell's process.

What a child does it does when it is started; whether it has ended is a matter of the time it
takes. Time passes only while the shell waits.
-/

/-- A child of the shell's process that was not waited for yet. -/
structure Child where
  /-- Its process id. -/
  pid : Nat
  /-- How it ends. -/
  status : Status
  /-- When it ends. -/
  endsAt : Nat
deriving DecidableEq, Repr

/-- The system around the shell. -/
structure Host where
  /-- What all processes share. -/
  world : World
  /-- The programs that the system knows. -/
  programs : Programs
  /-- The working directory of the shell's process. -/
  directory : Location
  /-- The permission bits that the shell's process keeps from the files that it makes. -/
  mask : Nat
  /-- The children that were not waited for. -/
  children : List Child := []
  /-- The time in milliseconds. -/
  clock : Nat := 0
  /-- The path of the shell's own program. -/
  executable : Path
  /-- The directory that the account calls home. -/
  accountHome : Path

/-- A request for a child process. -/
structure Launch where
  /-- The program, as a path or as a name to be searched. -/
  program : Path
  /-- The arguments, the first of which names the program. -/
  arguments : List Bytes
  /-- The variables. -/
  vars : Variables
  /-- The directory to work in, read from that of the shell's process. -/
  directory : Path
  /-- Where the child reads from. -/
  input : Inlet
  /-- Where the child writes to. -/
  output : Outlet

/-- What polling a child says. -/
inductive Poll where
  /-- It is still running. -/
  | running
  /-- It has ended. -/
  | exited (status : Status)
  /-- Nothing is known of it. -/
  | lost
deriving DecidableEq, Repr

namespace Launch

/-- Whether some text of the request holds a NUL byte. -/
def hasNul (request : Launch) : Bool :=
  request.program.bytes.hasNul || request.directory.bytes.hasNul ||
    request.arguments.any Bytes.hasNul || request.vars.listing.any Bytes.hasNul

end Launch

namespace Host

/-- Starts the child in its directory: the directory is entered first, and a relative path of the
    program is read from there. -/
def start (h : Host) (request : Launch) : Except Errno Ended := do
  let directory ← h.world.files.locate h.directory request.directory
  if !h.world.files.isDirectory directory.node then .error .notDirectory
  let process : Process :=
    { pid := h.world.nextPid
      parent := h.world.shell.pid
      arguments := request.arguments
      vars := request.vars
      directory
      mask := h.mask
      input := request.input.forChild
      output := request.output.forChild
      errors := .diagnostics }
  let w := { h.world with nextPid := h.world.nextPid + 1 }
  let launch := Execution.launcher h.programs
  if request.program.bytes.contains Path.separator then launch process request.program w
  else Execution.search launch process request.program.bytes w

/-- Starts a child and gives its process id. A child can take from the shell's standard input, but
    it cannot put anything there, and the shell's process is out of its reach. -/
def spawn (h : Host) (request : Launch) : Except IoError (Nat × Host) :=
  if request.hasNul then .error .nulInCommand
  else match h.start request with
    | .error reason => .error (.os reason)
    | .ok ended =>
      -- Whatever the child did to the input, what is left is a rest of what was there.
      let before := h.world.terminal.input.pending
      let left := min ended.world.terminal.input.pending.length before.length
      let input := { h.world.terminal.input with pending := before.drop (before.length - left) }
      let world :=
        { ended.world with
          terminal := { ended.world.terminal with input }
          shell := h.world.shell
          nextPid := max ended.world.nextPid (h.world.nextPid + 1) }
      let child : Child :=
        { pid := h.world.nextPid, status := ended.status, endsAt := h.clock + ended.elapsed }
      .ok (h.world.nextPid, { h with world, children := h.children ++ [child] })

/-- The child of a process id. -/
def child? (h : Host) (pid : Nat) : Option Child := h.children.find? (·.pid = pid)

/-- Waits until a child has ended, and forgets it. -/
def wait (h : Host) (pid : Nat) : Except IoError (Status × Host) :=
  match h.child? pid with
  | none => .error (.os ⟨10⟩)
  | some child =>
    .ok (child.status,
      { h with
        clock := max h.clock child.endsAt
        children := h.children.filter (·.pid ≠ pid) })

/-- Finds out whether a child has ended. -/
def poll (h : Host) (pid : Nat) : Poll :=
  match h.child? pid with
  | none => .lost
  | some child => if child.endsAt ≤ h.clock then .exited child.status else .running

/-- Forgets children. -/
def release (h : Host) (pids : List Nat) : Host :=
  { h with children := h.children.filter fun child => !pids.contains child.pid }

/-- Lets time pass until the children of the given process ids have ended. -/
def passTime (h : Host) (pids : List Nat) : Host :=
  { h with
    clock := (h.children.filter fun child => pids.contains child.pid).foldl
      (fun latest child => max latest child.endsAt) h.clock }

/-- Sends a signal to a child that is still running. -/
def killChild (h : Host) (signal : Signal) (pid : Nat) : Host :=
  { h with
    children := h.children.map fun child =>
      if child.pid = pid ∧ h.clock < child.endsAt then
        { child with status := .signalled signal, endsAt := h.clock }
      else child }

/-- Moves the shell's process to the directory at a path. -/
def changeDirectory (h : Host) (path : Path) : Except IoError Host :=
  FileSystem.guarded path do
    let found ← h.world.files.locate h.directory path
    if h.world.files.isDirectory found.node then .ok { h with directory := found }
    else .error .notDirectory

/-- Writes a message to the standard output of the shell's process. -/
def print (h : Host) (text : String) : Host :=
  { h with world := h.world.print (Bytes.ofString text) }

/-- Writes a message to the standard error output of the shell's process. -/
def complain (h : Host) (text : String) : Host :=
  { h with world := h.world.complain (Bytes.ofString text) }

end Host

end CommandShell

import CommandShell.Channel
import CommandShell.Variables

namespace CommandShell

/-!
# Process — a program at work

* `Status` — how a process ended;
* `Process` — what a process starts with;
* `Ended` — what it leaves behind;
* `Program` — what a process does, given a way to start further programs.
-/

/-- How a process ended. -/
inductive Status where
  /-- It returned a code. -/
  | exited (code : Nat)
  /-- A signal ended it. -/
  | signalled (signal : Signal)
deriving DecidableEq, Repr, Inhabited

namespace Status

/-- The code it returned, if it did. -/
def code? : Status → Option Nat
  | .exited code => some code
  | .signalled _ => none

/-- The code that stands for the status: its own, or 128 and the number of the signal. -/
def exitCode : Status → Nat
  | .exited code => code
  | .signalled signal => 128 + signal.number

end Status

/-- What a process starts with. -/
structure Process where
  /-- Its id. -/
  pid : Nat
  /-- The id of the process that started it. -/
  parent : Nat
  /-- Its arguments, the first of which names it. -/
  arguments : List Bytes
  /-- Its variables. -/
  vars : Variables
  /-- Its working directory. -/
  directory : Location
  /-- The permission bits that it keeps from the files that it makes. -/
  mask : Nat
  /-- Where it reads from. -/
  input : Inlet
  /-- Where it writes to. -/
  output : Outlet
  /-- Where it complains. -/
  errors : Outlet

/-- What a process leaves behind. -/
structure Ended where
  /-- The shared world afterwards. -/
  world : World
  /-- Its input, as far as it was read. -/
  input : Inlet
  /-- Its output. -/
  output : Outlet
  /-- Its complaints. -/
  errors : Outlet
  /-- How it ended. -/
  status : Status
  /-- The milliseconds it took. -/
  elapsed : Nat := 0

/-- A way to run the program at a path as a given process; refused with a reason. -/
abbrev Launcher := Process → Path → World → Except Errno Ended

/-- What a program does as a given process. -/
abbrev Program := Launcher → Process → World → Ended

/-- What the content of an executable file does when it is machine code; none if it is not. -/
abbrev Programs := Bytes → Option Program

end CommandShell

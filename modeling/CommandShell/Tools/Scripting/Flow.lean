import CommandShell.Tools.Scripting.Expansion

namespace CommandShell

/-!
# Scripting.Flow — what comes of a command

* `Scripting.Flow` — how a script goes on after a command;
* `Scripting.State.report` — a complaint, with the name of the script and the line;
* `Scripting.State.printFor` — output, and a complaint if it cannot be written;
* `Scripting.OwnCommand` — the commands that scripts know by themselves.
-/

namespace Scripting

/-- How a script goes on after a command. -/
inductive Flow where
  /-- With the next command. -/
  | next
  /-- Not at all. -/
  | exit
  /-- Not at all, because a signal ended it. -/
  | killed (signal : Signal)
  /-- After a number of loops around the command. -/
  | broken (loops : Nat)
  /-- With the next round of a loop around the command. -/
  | continued (loops : Nat)
deriving DecidableEq, Repr

namespace State

/-- The state with another code of the last command. -/
def withStatus (s : State) (status : Nat) : State := { s with status }

/-- Complains, with the name of the script and the line. -/
def report (s : State) (line : Nat) (message : String) : State :=
  let (_, errors, world) :=
    s.task.process.errors.write s.task.world
      (s.name ++ Bytes.ofString (": " ++ toString line ++ ": " ++ message ++ "\n"))
  { s with task := { s.task with process := { s.task.process with errors }, world } }

/-- Writes to the output, and complains in the name of a command if that fails. -/
def printFor (s : State) (line : Nat) (command : String) (bytes : Bytes) : State :=
  let (result, output, world) := s.task.process.output.write s.task.world bytes
  let s := { s with task := { s.task with process := { s.task.process with output }, world } }
  match result with
  | .ok () => s.withStatus 0
  | .error _ => (s.report line (command ++ ": " ++ command ++ ": I/O error")).withStatus 1

end State

/-- A command that scripts know by themselves, on a line and with arguments. -/
abbrev OwnCommand := (line : Nat) → State → List Bytes → Flow × State

/-- The number that digits stand for. -/
def number? (digits : Bytes) : Option Nat :=
  if digits.isEmpty ∨ digits.any (fun b => b < 48 || 57 < b) then none
  else
    let n := digits.foldl (fun n b => n * 10 + (b.toNat - 48)) 0
    if n ≤ 2147483647 then some n else none

/-- The code of a command that was used wrongly. -/
def misuse : Nat := 2

end Scripting

end CommandShell

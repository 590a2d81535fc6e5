import CommandShell.Process

namespace CommandShell

/-!
# Tools.Task — a program while it works

* `Task` — a process, the world as it left it so far, and the time it took;
* `Task.print`, `Task.warn` — writing; `Task.close` ends a program, and complains if it could not
  write to its output;
* `Task.refuse` — ends a program because of its arguments;
* `Task.readInput`, `Task.readFile` — reading;
* `Tool.program` — the program of a function on tasks.
-/

/-- A program while it works. -/
structure Task where
  /-- The way to start further programs. -/
  launch : Launcher
  /-- The process, with its streams as far as they were used. -/
  process : Process
  /-- The shared world. -/
  world : World
  /-- The milliseconds that passed. -/
  elapsed : Nat := 0
  /-- Why writing to the output failed, if it did. -/
  trouble : Option Errno := none

/-- What a program does with its operands. -/
abbrev Tool := Task → List Bytes → Ended

namespace Tool

/-- The program of a function on tasks. -/
def program (tool : Tool) : Program := fun launch process world =>
  tool { launch, process, world } (process.arguments.drop 1)

end Tool

namespace Task

/-- Ends with a status. -/
def leave (t : Task) (status : Status) : Ended :=
  { world := t.world
    input := t.process.input
    output := t.process.output
    errors := t.process.errors
    status
    elapsed := t.elapsed }

/-- Ends with a code. -/
def finish (t : Task) (code : Nat) : Ended := t.leave (.exited code)

/-- Writes to the output. Nothing is written after a failure. -/
def print (t : Task) (bytes : Bytes) : Task :=
  if t.trouble.isSome then t
  else
    -- The first failure is kept: it is reported once, at the end.
    let (result, output, world) := t.process.output.write t.world bytes
    let trouble := match result with
      | .ok () => none
      | .error reason => some reason
    { t with process := { t.process with output }, world, trouble }

/-- Writes a text to the error output. -/
def complain (t : Task) (text : String) : Task :=
  let (_, errors, world) := t.process.errors.write t.world (Bytes.ofString text)
  { t with process := { t.process with errors }, world }

/-- The name that the program was called by. -/
def name (t : Task) : String := (t.process.arguments.headD []).toStringLossy

/-- Writes a line to the error output, after the name of the program. -/
def warn (t : Task) (message : String) : Task := t.complain (t.name ++ ": " ++ message ++ "\n")

/-- Ends because of the arguments: says what is wrong with them, and where to read more. -/
def refuse (t : Task) (message : String) (code : Nat := 1) : Ended :=
  let advice := "Try '" ++ t.name ++ " --help' for more information.\n"
  ((t.warn message).complain advice).finish code

/-- Ends with a code, or with a complaint and another code if writing to the output failed. -/
def close (t : Task) (code : Nat) (failure : Nat := 1) : Ended :=
  match t.trouble with
  | none => t.finish code
  | some reason => (t.warn ("write error: " ++ reason.description)).finish failure

/-- Reads the whole input. -/
def readInput (t : Task) : Except Errno Bytes × Task :=
  let (result, input, world) := t.process.input.readAll t.world
  (result, { t with process := { t.process with input }, world })

/-- The arguments of the process, as it finds them in a file. -/
def argumentBytes (t : Task) : Bytes :=
  t.process.arguments.flatMap (· ++ [Bytes.nul])

/-- The bytes of a file. -/
def readNode (t : Task) (node : NodeId) : Except Errno Bytes :=
  match t.world.files.node? node with
  | some (.device .arguments) => .ok t.argumentBytes
  | _ => t.world.files.content node

/-- The file that a path leads to. -/
def openFile (t : Task) (path : Path) : Except Errno NodeId :=
  (t.world.files.locate t.process.directory path).map Location.node

/-- The bytes of the file at a path. -/
def readFile (t : Task) (path : Path) : Except Errno Bytes := do
  t.readNode (← t.openFile path)

end Task

end CommandShell

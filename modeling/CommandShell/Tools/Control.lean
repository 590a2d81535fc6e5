import CommandShell.Execution
import CommandShell.Tools.Files

namespace CommandShell

/-!
# Tools.Control — programs that succeed, fail, wait, and start others

* `Tools.succeed`, `Tools.fail` — a code and nothing else;
* `Tools.sleep` — lets time pass;
* `Tools.echo` — prints its arguments;
* `Tools.env` — prints the variables, or starts a program with others.
-/

namespace Tools

/-- Succeeds. -/
def succeed : Tool := fun t _ => t.finish 0

/-- Fails. -/
def fail : Tool := fun t _ => t.finish 1

/-- The milliseconds in a unit of time. -/
def unit? : Bytes → Option Nat
  | [] => some 1000
  | [115] => some 1000
  | [109] => some 60000
  | [104] => some 3600000
  | [100] => some 86400000
  | _ => none

/-- The milliseconds that an operand stands for: a number, perhaps with decimals and a unit. -/
def milliseconds? (operand : Bytes) : Option Nat :=
  let isDigit (b : UInt8) := 48 ≤ b && b ≤ 57
  let whole := operand.takeWhile isDigit
  let (decimals, rest) :=
    match operand.drop whole.length with
    | 46 :: rest => (rest.takeWhile isDigit, rest.dropWhile isDigit)
    | rest => ([], rest)
  if whole.isEmpty ∧ decimals.isEmpty then none
  else match unit? rest with
    | none => none
    | some unit =>
      let wholes := (natural? whole).getD 0 * unit
      let parts := (natural? decimals).getD 0 * unit
      let parted := Nat.pow 10 decimals.length
      some (wholes + (parts + parted - 1) / parted)

/-- Lets time pass. -/
def sleep : Tool := fun t arguments =>
  let (options, operands) := splitArguments arguments
  match options, operands with
  | option :: _, _ => refuseOption t option
  | [], [] => t.refuse "missing operand"
  | [], operands =>
    match operands.filter fun o => (milliseconds? o).isNone with
    | [] =>
      let elapsed := (operands.filterMap milliseconds?).foldl (· + ·) t.elapsed
      { t with elapsed }.finish 0
    | first :: rest =>
      let complaint (operand : Bytes) : String := "invalid time interval " ++ Quoting.plain operand
      let all := first :: rest
      let t := all.dropLast.foldl (fun t operand => t.warn (complaint operand)) t
      t.refuse (complaint (all.getLast?.getD []))

/-- Prints its arguments, without a newline at the end if the first one is `-n`. -/
def echo : Tool := fun t arguments =>
  match arguments with
  | [45, 110] :: rest => (t.print (Bytes.joinWith 32 rest)).close 0
  | _ => (t.print (Bytes.joinWith 32 arguments ++ [Bytes.newline])).close 0

/-- The name and value of an assignment. -/
def assignment? (argument : Bytes) : Option (Bytes × Bytes) :=
  let name := argument.takeWhile (· ≠ Variables.equals)
  match argument.drop name.length with
  | _ :: value => some (name, value)
  | [] => none

/-- The variables after assignments, and the arguments after those. -/
def assignAll (vars : Variables) : List Bytes → Variables × List Bytes
  | [] => (vars, [])
  | argument :: rest =>
    match assignment? argument with
    | some (name, value) => assignAll (vars.set name value) rest
    | none => (vars, argument :: rest)

/-- The code of a program that could not be started. -/
def startFailure (reason : Errno) : Nat := if reason = .notFound then 127 else 126

/-- Every variable as `NAME=value`: first those that were there before assignments, and then the
    others in the order of the assignments. -/
def listAssigned (before vars : Variables) (arguments : List Bytes) : List Bytes :=
  let assigned := (arguments.filterMap assignment?).map (·.1)
  let others := assigned.filter fun name => (OrderedMap.get? before name).isNone
  (before.entries.map (·.1) ++ others.eraseDups).map fun name =>
    name ++ Variables.equals :: (OrderedMap.get? vars name).getD []

/-- Prints the variables; or starts a program, with some of them changed. -/
def env : Tool := fun t arguments =>
  let (before, arguments) : Variables × List Bytes :=
    match arguments with
    | [45, 105] :: rest => ({}, rest)
    | [45] :: rest => ({}, rest)
    | _ => (t.process.vars, arguments)
  let (vars, command) := assignAll before arguments
  match command with
  | [] =>
    (t.print ((listAssigned before vars arguments).flatMap (· ++ [Bytes.newline]))).close 0 125
  | name :: _ =>
    match name with
    | 45 :: _ :: _ => refuseOption t name 125
    | _ =>
      let process := { t.process with arguments := command, vars }
      match Execution.search t.launch process name t.world with
      | .ok ended => { ended with elapsed := t.elapsed + ended.elapsed }
      | .error reason =>
        (t.warn (Quoting.always name ++ ": " ++ reason.description)).finish (startFailure reason)

end Tools

end CommandShell

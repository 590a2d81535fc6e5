import CommandShell.Execution
import CommandShell.Tools.Scripting.Printing

namespace CommandShell

/-!
# Scripting.Commands — the commands that scripts know by themselves

* `Scripting.ownCommand?` — the command of a name, if scripts know it by themselves;
* `Scripting.runProgram`, `Scripting.replaceBy` — runs a program for a script, or in its place.
-/

namespace Scripting

/-! ### Numbers and signals -/

/-- Ends the script, because a number is expected and something else is there. -/
def illegalNumber (line : Nat) (s : State) (command : String) (word : Bytes) : Flow × State :=
  (.exit, (s.report line (command ++ ": Illegal number: " ++ word.toStringLossy)).withStatus misuse)

/-- Ends the script, with a code if one is given. -/
def exit : OwnCommand := fun line s arguments =>
  match arguments with
  | [] => (.exit, s)
  | word :: _ =>
    match number? word with
    | some n => (.exit, s.withStatus (n % 256))
    | none => illegalNumber line s "exit" word

/-- The signals by name. -/
def signalNames : List (String × Nat) :=
  [("EXIT", 0), ("HUP", 1), ("INT", 2), ("QUIT", 3), ("ILL", 4), ("TRAP", 5), ("ABRT", 6),
    ("BUS", 7), ("FPE", 8), ("KILL", 9), ("USR1", 10), ("SEGV", 11), ("USR2", 12), ("PIPE", 13),
    ("ALRM", 14), ("TERM", 15), ("STKFLT", 16), ("CHLD", 17), ("CONT", 18), ("STOP", 19),
    ("TSTP", 20), ("TTIN", 21), ("TTOU", 22), ("URG", 23), ("XCPU", 24), ("XFSZ", 25),
    ("VTALRM", 26), ("PROF", 27), ("WINCH", 28), ("IO", 29), ("PWR", 30), ("SYS", 31)]

/-- The greatest number of a signal. -/
def lastSignal : Nat := 64

/-- The signal of a name or number. -/
def signal? (word : Bytes) : Option Signal :=
  match number? word with
  | some n => if n ≤ lastSignal then some ⟨n⟩ else none
  | none =>
    let name := word.toStringLossy.toUpper
    (signalNames.find? (·.1 = name)).map fun entry => ⟨entry.2⟩

/-- Sends a signal to a process. Only the script itself and the shell are known; other processes
    have ended. -/
def sendSignal (line : Nat) (s : State) (signal : Signal) (target : Bytes) : Flow × State :=
  match number? target with
  | none => illegalNumber line s "kill" target
  | some pid =>
    -- A script that sends itself a deadly signal ends there.
    if pid = s.task.process.pid then
      if signal.isDeadly then (.killed signal, s) else (.next, s.withStatus 0)
    else if pid = s.task.world.shell.pid then
      let world :=
        if signal = .interrupt then s.task.world.interruptShell else s.task.world
      (.next, { s with task := { s.task with world } }.withStatus 0)
    else (.next, (s.report line "kill: No such process").withStatus 1)

/-- Sends a signal to processes. -/
def kill : OwnCommand := fun line s arguments =>
  let usage : Flow × State :=
    (.next, (s.report line ("kill: Usage: kill [-s sigspec | -signum | -sigspec] " ++
      "[pid | job]... or\nkill -l [exitstatus]")).withStatus misuse)
  let sendAll (signal : Signal) (targets : List Bytes) : Flow × State :=
    targets.foldl (fun (flow, s) target =>
      if flow = .next then sendSignal line s signal target else (flow, s)) (.next, s)
  match arguments with
  | [] => usage
  | (45 :: 115 :: []) :: name :: targets =>
    match signal? name with
    | some signal => if targets.isEmpty then usage else sendAll signal targets
    | none =>
      (.exit, (s.report line ("kill: invalid signal number or name: " ++
        name.toStringLossy)).withStatus misuse)
  | (45 :: first :: name) :: targets =>
    if first = 45 ∧ name.isEmpty then
      if targets.isEmpty then usage else sendAll ⟨15⟩ targets
    else
      match signal? (first :: name) with
      | some signal => if targets.isEmpty then usage else sendAll signal targets
      | none =>
        (.exit, (s.report line ("kill: Illegal option -" ++
          Bytes.toStringLossy [first])).withStatus misuse)
  | targets => sendAll ⟨15⟩ targets

/-! ### Variables and parameters -/

/-- Reads a line without its newline, backslashes taken away: the characters, each with whether it
    was protected by one; and whether a newline ended it. -/
def plainLine : List Char → List (Char × Bool) × Bool
  | [] => ([], false)
  | ['\n'] => ([], true)
  | '\\' :: '\n' :: rest => plainLine rest
  | '\\' :: c :: rest => ((c, true) :: (plainLine rest).1, (plainLine rest).2)
  | c :: rest => ((c, false) :: (plainLine rest).1, (plainLine rest).2)

/-- Whether a character of a line separates words. -/
def separates (x : Char × Bool) : Bool := !x.2 && isBlank x.1

/-- The values of as many names: the words of a line, the last one with everything that is left. -/
def shares : (names : List Bytes) → List (Char × Bool) → List (Bytes × Bytes)
  | [], _ => []
  | [name], line =>
    let text := (line.dropWhile separates).reverse.dropWhile separates
    [(name, toBytes (text.reverse.map (·.1)))]
  | name :: others, line =>
    let line := line.dropWhile separates
    let word := line.takeWhile (!separates ·)
    (name, toBytes (word.map (·.1))) :: shares others (line.drop word.length)

/-- Reads a line of the input into variables. -/
def read : OwnCommand := fun line s arguments =>
  let names := arguments.filter (·.head? != some 45)
  if names.isEmpty then
    (.exit, (s.report line "read: arg count").withStatus misuse)
  else
    let (result, input, world) := s.task.process.input.readLine s.task.world
    let s := { s with task := { s.task with process := { s.task.process with input }, world } }
    let (text, ended) := plainLine (ofBytes (result.toOption.getD []))
    let s := (shares names text).foldl (fun s entry => s.assign entry.1 entry.2) s
    (.next, s.withStatus (if ended then 0 else 1))

/-- Lets other programs get variables, after assigning them. -/
def exportAll : OwnCommand := fun _ s arguments =>
  let step (s : State) (argument : Bytes) : State :=
    let name := argument.takeWhile (· ≠ Variables.equals)
    match argument.drop name.length with
    | _ :: value => (s.assign name value).publish name
    | [] => s.publish name
  (.next, (arguments.foldl step s).withStatus 0)

/-- Forgets variables. -/
def unset : OwnCommand := fun _ s arguments =>
  let step (s : State) (name : Bytes) : State :=
    { s with
      task := { s.task with process :=
        { s.task.process with vars :=
          s.task.process.vars.filter fun other _ => other ≠ name } }
      locals := s.locals.filter fun other _ => other ≠ name }
  (.next, (arguments.foldl step s).withStatus 0)

/-- Drops parameters from the front. -/
def shift : OwnCommand := fun line s arguments =>
  match (arguments.head?.map number?).getD (some 1) with
  | none => illegalNumber line s "shift" (arguments.headD [])
  | some count =>
    if count ≤ s.parameters.length then
      (.next, { s with parameters := s.parameters.drop count, status := 0 })
    else (.exit, (s.report line "shift: can't shift that many").withStatus misuse)

/-- Goes to another directory. -/
def cd : OwnCommand := fun line s arguments =>
  let target :=
    (arguments.head?.or (s.valueOf? (Bytes.ofString "HOME"))).getD []
  let fs := s.task.world.files
  let place := fs.locate s.task.process.directory ⟨target⟩
  match place with
  | .ok found =>
    if fs.isDirectory found.node then
      let before := (s.valueOf? (Bytes.ofString "PWD")).getD []
      let s := { s with task := { s.task with process :=
        { s.task.process with directory := found } } }
      let s := (s.assign (Bytes.ofString "OLDPWD") before).publish (Bytes.ofString "OLDPWD")
      let s := (s.assign (Bytes.ofString "PWD") found.path.bytes).publish (Bytes.ofString "PWD")
      (.next, s.withStatus 0)
    else (.next, (s.report line ("cd: can't cd to " ++ target.toStringLossy)).withStatus misuse)
  | .error _ =>
    (.next, (s.report line ("cd: can't cd to " ++ target.toStringLossy)).withStatus misuse)

/-! ### Conditions -/

/-- A whole number, with a sign or without. -/
def integer? (word : Bytes) : Option Int :=
  match word with
  | 45 :: digits => (number? digits).map fun n => -(n : Int)
  | 43 :: digits => (number? digits).map fun n => (n : Int)
  | digits => (number? digits).map fun n => (n : Int)

/-- Whether a condition on one word holds; none if there is no such condition. -/
def unary? (s : State) (operator : String) (word : Bytes) : Option Bool :=
  let fs := s.task.world.files
  let node? := (s.task.openFile ⟨word⟩).toOption.bind fs.node?
  match operator with
  | "-n" => some (!word.isEmpty)
  | "-z" => some word.isEmpty
  | "-e" => some node?.isSome
  | "-r" => some node?.isSome
  | "-w" => some node?.isSome
  | "-f" => some (fs.isRegular s.task.process.directory ⟨word⟩)
  | "-d" => some ((s.task.openFile ⟨word⟩).toOption.any fs.isDirectory)
  | "-x" => some (fs.isExecutable s.task.process.directory ⟨word⟩)
  | "-s" =>
    some (match node? with
      | some (.file _ content) => !content.isEmpty
      | other => other.isSome)
  | _ => none

/-- Whether a condition on two words holds; none if there is no such condition. -/
def binary? (left : Bytes) (operator : String) (right : Bytes) : Option Bool :=
  let compared (test : Int → Int → Bool) : Option Bool :=
    match integer? left, integer? right with
    | some a, some b => some (test a b)
    | _, _ => none
  match operator with
  | "=" => some (left = right)
  | "!=" => some (left ≠ right)
  | "-eq" => compared fun a b => a = b
  | "-ne" => compared fun a b => a ≠ b
  | "-lt" => compared fun a b => a < b
  | "-le" => compared fun a b => a ≤ b
  | "-gt" => compared fun a b => a > b
  | "-ge" => compared fun a b => a ≥ b
  | _ => none

/-- Whether the condition of some words holds; none if they are none. -/
def condition? (s : State) : List Bytes → Option Bool
  | [] => some false
  | [word] => some (!word.isEmpty)
  | [operator, word] =>
    if operator = Bytes.ofString "!" then some word.isEmpty
    else unary? s operator.toStringLossy word
  | [left, operator, right] =>
    match binary? left operator.toStringLossy right with
    | some held => some held
    | none =>
      if left = Bytes.ofString "!" then (unary? s operator.toStringLossy right).map (!·) else none
  | [negation, left, operator, right] =>
    if negation = Bytes.ofString "!" then (binary? left operator.toStringLossy right).map (!·)
    else none
  | _ => none

/-- Tells by its code whether a condition holds. -/
def test (name : String) : OwnCommand := fun line s arguments =>
  let words := if name = "[" then arguments.dropLast else arguments
  match condition? s words with
  | some held => (.next, s.withStatus (if held then 0 else 1))
  | none => (.next, (s.report line (name ++ ": unexpected operator")).withStatus misuse)

/-- How many loops a word asks to leave. -/
def loopCount (arguments : List Bytes) : Nat :=
  max 1 (((arguments.head?.map number?).getD (some 1)).getD 1)

/-- The command of a name, if scripts know it by themselves. -/
def ownCommand? (name : Bytes) : Option OwnCommand :=
  match name.toStringLossy with
  | ":" => some fun _ s _ => (.next, s.withStatus 0)
  | "true" => some fun _ s _ => (.next, s.withStatus 0)
  | "false" => some fun _ s _ => (.next, s.withStatus 1)
  | "echo" => some echo
  | "printf" => some printf
  | "pwd" => some pwd
  | "exit" => some exit
  | "return" => some exit
  | "kill" => some kill
  | "read" => some read
  | "export" => some exportAll
  | "unset" => some unset
  | "shift" => some shift
  | "cd" => some cd
  | "test" => some (test "test")
  | "[" => some (test "[")
  | "wait" => some fun _ s _ => (.next, s.withStatus 0)
  | "break" => some fun _ s arguments => (.broken (loopCount arguments), s.withStatus 0)
  | "continue" => some fun _ s arguments => (.continued (loopCount arguments), s.withStatus 0)
  | _ => none

/-! ### Programs -/

/-- Where programs are looked for if `PATH` says nothing. -/
def standardPath : Bytes :=
  Bytes.ofString "/usr/local/sbin:/usr/local/bin:/usr/sbin:/usr/bin:/sbin:/bin"

/-- Whether there is simply nothing at a path, for one of two reasons. -/
def isAbsence (reason : Errno) : Bool := reason = .notFound || reason = .notDirectory

/-- What is said about a program that cannot be run. -/
def launchTrouble (reason : Errno) : String :=
  if isAbsence reason then "not found" else reason.description

/-- The code of a program that is there and cannot be run, or that no path leads to. -/
def launchStatus (reason : Errno) : Nat :=
  if isAbsence reason || reason = .tooManyLinks || reason = .nameTooLong then 127 else 126

/-- Looks for a program along paths: the first that leads to a file that may be run. If there is
    none, the reason is that of the last path where something was in the way. -/
def searchProgram (s : State) (reason : Errno) : List Path → Except Errno Path
  | [] => .error reason
  | path :: rest =>
    let start := s.task.process.directory
    let fs := s.task.world.files
    match fs.locate start path with
    | .error trouble => searchProgram s (if isAbsence trouble then reason else trouble) rest
    | .ok _ =>
      if fs.isRegular start path && fs.isExecutable start path then .ok path
      else searchProgram s .permissionDenied rest

/-- The path of a program: the name itself if it holds a slash, else the first file of that name
    along `PATH` that may be run. -/
def findProgram (s : State) (name : Bytes) : Except Errno Path :=
  if name.contains Path.separator then .ok ⟨name⟩
  else
    let search := (s.valueOf? (Bytes.ofString "PATH")).getD standardPath
    searchProgram s .notFound ((Bytes.splitOn Execution.searchSeparator search).map fun directory =>
      ⟨if directory.isEmpty then name else directory ++ Path.separator :: name⟩)

/-- What is said about a program that a signal ended. -/
def obituary? (signal : Signal) : Option String :=
  match signal.number with
  | 1 => some "Hangup"
  | 3 => some "Quit"
  | 4 => some "Illegal instruction"
  | 6 => some "Aborted"
  | 8 => some "Floating point exception"
  | 9 => some "Killed"
  | 10 => some "User defined signal 1"
  | 11 => some "Segmentation fault"
  | 12 => some "User defined signal 2"
  | 14 => some "Alarm clock"
  | 15 => some "Terminated"
  | _ => none

/-- Runs the program of a process on the streams of the script, if it can be started: the script
    after it, and how it ended. -/
def State.start (s : State) (process : Process) (path : Path) : Except Errno (State × Status) :=
  match Execution.runOrInterpret s.task.launch process path s.task.world with
  | .error reason => .error reason
  | .ok ended =>
    let process :=
      { s.task.process with
        input := ended.input
        output := ended.output
        errors := ended.errors }
    let task :=
      { s.task with process, world := ended.world, elapsed := s.task.elapsed + ended.elapsed }
    .ok ({ s with task, status := ended.status.exitCode }, ended.status)

/-- The process of a script, with some variables changed and other arguments. -/
def State.processFor (s : State) (changes : List (Bytes × Bytes)) (words : List Bytes) : Process :=
  { s.task.process with
    arguments := words
    vars := changes.foldl (fun vars entry => vars.set entry.1 entry.2) s.task.process.vars }

/-- Runs a program for a script, with some variables changed. -/
def runProgram (line : Nat) (s : State) (changes : List (Bytes × Bytes)) (words : List Bytes) :
    State :=
  let name := words.headD []
  let shown := name.toStringLossy
  match findProgram s name with
  | .error reason => (s.report line (shown ++ ": " ++ launchTrouble reason)).withStatus 127
  | .ok path =>
    let pid := s.task.world.nextPid
    let process := { s.processFor changes words with pid, parent := s.task.process.pid }
    let s := { s with task := { s.task with world := { s.task.world with nextPid := pid + 1 } } }
    match s.start process path with
    | .error reason =>
      (s.report line (shown ++ ": " ++ launchTrouble reason)).withStatus (launchStatus reason)
    | .ok (s, .exited _) => s
    | .ok (s, .signalled signal) =>
      match obituary? signal with
      | none => s
      | some text => { s with task := s.task.complain (text ++ "\n") }

/-- Runs a program in place of the script, which ends as the program does. -/
def replaceBy (line : Nat) (s : State) (changes : List (Bytes × Bytes)) (words : List Bytes) :
    Flow × State :=
  let name := words.headD []
  let refuse (reason : Errno) : Flow × State :=
    (.exit, (s.report line ("exec: " ++ name.toStringLossy ++ ": " ++
      launchTrouble reason)).withStatus (launchStatus reason))
  match findProgram s name with
  | .error reason => refuse reason
  | .ok path =>
    match s.start (s.processFor changes words) path with
    | .error reason => refuse reason
    | .ok (s, .exited _) => (.exit, s)
    | .ok (s, .signalled signal) => (.killed signal, s)

end Scripting

end CommandShell

import CommandShell.Tools.Scripting.Commands
import CommandShell.Tools.Scripting.Parser

namespace CommandShell

/-!
# Scripting.Runner — running a script

* `Scripting.redirectAll` — the files and descriptors of a command;
* `Scripting.runCommand` — runs a command; a number of steps bounds how long it may take;
* `Scripting.runTokens` — runs the lines of a script one after the other, as they are read;
* `Tools.interpreter` — the program that runs scripts.
-/

namespace Scripting

/-! ### Streams -/

/-- The streams of the process of a script. -/
structure Channels where
  /-- Where it reads from. -/
  input : Inlet
  /-- Where it writes to. -/
  output : Outlet
  /-- Where it complains. -/
  errors : Outlet

namespace State

/-- The streams of the script. -/
def channels (s : State) : Channels :=
  { input := s.task.process.input
    output := s.task.process.output
    errors := s.task.process.errors }

/-- The script with other streams. -/
def withChannels (s : State) (channels : Channels) : State :=
  { s with task := { s.task with process :=
    { s.task.process with
      input := channels.input
      output := channels.output
      errors := channels.errors } } }

/-- The script with other files. -/
def withFiles (s : State) (files : FileSystem) : State :=
  { s with task := { s.task with world := { s.task.world with files } } }

/-- The script with another outlet for the stream of a number. -/
def withOutlet (s : State) (stream : Nat) (outlet : Outlet) : State :=
  let channels := s.channels
  match stream with
  | 1 => s.withChannels { channels with output := outlet }
  | 2 => s.withChannels { channels with errors := outlet }
  | _ => s

end State

/-- What is said about a file that cannot be opened. -/
def openTrouble (verb : String) (path : Bytes) (reason : Errno) (missing : String) : String :=
  "cannot " ++ verb ++ " " ++ path.toStringLossy ++ ": " ++
    (if reason = .notFound then missing else reason.description)

/-- An outlet whose every write goes to the end of its file, so that it can stand in for two
    streams. -/
def shared : Outlet → Outlet
  | .file handle => .file { handle with append := true }
  | outlet => outlet

/-- The script after one redirection, or what is wrong with it. -/
def redirectOne (s : State) : Redirect → Except String State
  | .read file =>
    let path := expandOne s file
    match s.task.openFile ⟨path⟩ with
    | .ok node => .ok (s.withChannels { s.channels with input := .file { node } })
    | .error reason => .error (openTrouble "open" path reason "No such file")
  | .write stream append file =>
    let path := expandOne s file
    let process := s.task.process
    let mode := FileSystem.outputMode process.mask
    match s.task.world.files.openForWriting process.directory ⟨path⟩ mode (!append) with
    | .ok (files, node) => .ok ((s.withFiles files).withOutlet stream (.file { node, append }))
    | .error reason => .error (openTrouble "create" path reason "Directory nonexistent")
  | .join stream other =>
    match (expandOne s other).toStringLossy with
    | "1" =>
      let outlet := shared s.channels.output
      .ok ((s.withOutlet 1 outlet).withOutlet stream outlet)
    | "2" =>
      let outlet := shared s.channels.errors
      .ok ((s.withOutlet 2 outlet).withOutlet stream outlet)
    | "-" => .ok (s.withOutlet stream .discard)
    | word => .error (word ++ ": Bad file descriptor")

/-- The script after some redirections, or what is wrong with the first bad one and the script as
    the ones before it left it. -/
def redirectAll (s : State) : List Redirect → Except (String × State) State
  | [] => .ok s
  | r :: rest =>
    match redirectOne s r with
    | .ok s => redirectAll s rest
    | .error message => .error (message, s)

/-- Whether a redirection is about the stream of a number. -/
def concerns (stream : Nat) : Redirect → Bool
  | .read _ => stream = 0
  | .write other _ _ => other = stream
  | .join other _ => other = stream

/-- The script with the streams it had before a command, as far as the command had others. -/
def restore (before : Channels) (rs : List Redirect) (s : State) : State :=
  let after := s.channels
  s.withChannels
    { input := if rs.any (concerns 0) then before.input else after.input
      output := if rs.any (concerns 1) then before.output else after.output
      errors := if rs.any (concerns 2) then before.errors else after.errors }

/-! ### Commands -/

/-- How a loop goes on after its body: out of it with the given flow, or with the next round. -/
def Flow.afterBody : Flow → Option Flow
  | .next => none
  | .broken loops => some (if loops ≤ 1 then .next else .broken (loops - 1))
  | .continued loops => if loops ≤ 1 then none else some (.continued (loops - 1))
  | flow => some flow

/-- The state after commands that had variables of their own: only what they did to the world and
    to the streams is left. -/
def rejoin (before : State) (flow : Flow) (after : State) : State :=
  let process :=
    { before.task.process with
      input := after.task.process.input
      output := after.task.process.output
      errors := after.task.process.errors }
  let status :=
    match flow with
    | .killed signal => 128 + signal.number
    | _ => after.status
  { before with
    task :=
      { before.task with process, world := after.task.world, elapsed := after.task.elapsed }
    status }

/-- Runs a simple command whose words are known. -/
def runWords (line : Nat) (s : State) (changes : List (Bytes × Bytes)) (words : List Bytes) :
    Flow × State :=
  match words with
  | [] =>
    (.next, changes.foldl (fun s entry => s.assign entry.1 entry.2) (s.withStatus 0))
  | name :: arguments =>
    match ownCommand? name with
    | some own => own line s arguments
    | none =>
      if name = Bytes.ofString "exec" then
        replaceBy line s changes arguments
      else (.next, runProgram line s changes words)

/-- Runs a simple command. Redirections of `exec` alone stay for all commands after it. -/
def runSimple (line : Nat) (s : State) (assignments : List (List Char × Word))
    (words : List Word) (rs : List Redirect) : Flow × State :=
  let changes := assignments.map fun entry => (toBytes entry.1, expandOne s entry.2)
  let fields := expand s words
  match redirectAll s rs with
  | .error (message, opened) =>
    let failed := (opened.withChannels s.channels).report line message
    (.next, failed.withStatus misuse)
  | .ok opened =>
    if fields = [Bytes.ofString "exec"] then (.next, opened.withStatus 0)
    else
      let (flow, after) := runWords line opened changes fields
      (flow, restore s.channels rs after)

mutual

/-- Runs a command. -/
def runCommand : (steps : Nat) → State → Command → Flow × State
  | 0, s, _ => (.exit, s.withStatus misuse)
  | steps + 1, s, c =>
    match c with
    | .empty => (.next, s.withStatus 0)
    | .simple line assignments words rs => runSimple line s assignments words rs
    | .sequence first second =>
      match runCommand steps s first with
      | (.next, s) => runCommand steps s second
      | stopped => stopped
    | .both first second =>
      match runCommand steps s first with
      | (.next, s) => if s.status = 0 then runCommand steps s second else (.next, s)
      | stopped => stopped
    | .either first second =>
      match runCommand steps s first with
      | (.next, s) => if s.status = 0 then (.next, s) else runCommand steps s second
      | stopped => stopped
    | .negated body =>
      match runCommand steps s body with
      | (.next, s) => (.next, s.withStatus (if s.status = 0 then 1 else 0))
      | stopped => stopped
    | .pipe first second =>
      let before := s.channels
      let writing := s.withChannels { before with output := .memory {} }
      -- The first command runs to its end; what it wrote then is the input of the second.
      let (flow, wrote) := runCommand steps writing first
      let written :=
        match wrote.channels.output with
        | .memory capture => capture.written
        | _ => []
      let s := rejoin s flow wrote
      let reading := s.withChannels
        { s.channels with input := .memory { pending := written }, output := before.output }
      let (flow, read) := runCommand steps reading second
      let after := rejoin s flow read
      (.next, after.withChannels { after.channels with input := s.channels.input })
    | .background body =>
      -- It runs at once, but takes no time of the script.
      let pid := s.task.world.nextPid
      let world := { s.task.world with nextPid := pid + 1 }
      let apart := { s with task := { s.task with world } }
      let (flow, after) := runCommand steps apart body
      let joined := rejoin s flow after
      (.next,
        { joined with
          task := { joined.task with elapsed := s.task.elapsed }
          status := 0
          lastJob := some pid })
    | .group line apart body rs =>
      match redirectAll s rs with
      | .error (message, opened) =>
        (.next, ((opened.withChannels s.channels).report line message).withStatus misuse)
      | .ok opened =>
        let (flow, after) := runCommand steps opened body
        let after := restore s.channels rs after
        if apart then (.next, rejoin s flow after) else (flow, after)
    | .branch condition yes no =>
      match runCommand steps s condition with
      | (.next, s) => runCommand steps s (if s.status = 0 then yes else no)
      | stopped => stopped
    | .loop sense condition body => runLoop steps s sense condition body
    | .forEach name words body =>
      let values :=
        match words with
        | some words => expand s words
        | none => s.parameters
      runFor steps (s.withStatus 0) (toBytes name) values body

/-- Runs a body as long as a condition succeeds, or fails. -/
def runLoop : (steps : Nat) → State → Bool → Command → Command → Flow × State
  | 0, s, _, _, _ => (.exit, s.withStatus misuse)
  | steps + 1, s, sense, condition, body =>
    let status := s.status
    match runCommand steps s condition with
    | (.next, s) =>
      if decide (s.status = 0) = sense then
        let (flow, s) := runCommand steps s body
        match flow.afterBody with
        | none => runLoop steps s sense condition body
        | some flow => (flow, s)
      else (.next, s.withStatus (if status = 0 then 0 else status))
    | stopped => stopped

/-- Runs a body with a variable set to one value after the other. -/
def runFor : (steps : Nat) → State → Bytes → List Bytes → Command → Flow × State
  | 0, s, _, _, _ => (.exit, s.withStatus misuse)
  | _ + 1, s, _, [], _ => (.next, s)
  | steps + 1, s, name, value :: rest, body =>
    let (flow, s) := runCommand steps (s.assign name value) body
    match flow.afterBody with
    | none => runFor steps s name rest body
    | some flow => (flow, s)

end

/-- How many steps a script may take. -/
def stepLimit : Nat := 100000

/-- Runs the lines of a script one after the other; a line that cannot be read ends it. -/
def runTokens (last : Nat) : (lines : Nat) → State → List Lexeme → Flow × State
  | 0, s, _ => (.next, s)
  | lines + 1, s, tokens =>
    match line? last tokens with
    | none => (.next, s)
    | some (.error fault) => (.exit, (s.report fault.line fault.message).withStatus misuse)
    | some (.ok (c, rest)) =>
      match runCommand stepLimit s c with
      | (.next, s) => runTokens last lines s rest
      | (.broken _, s) => runTokens last lines s rest
      | (.continued _, s) => runTokens last lines s rest
      | stopped => stopped

/-- The working directory of a new script, under the name that the variable `PWD` gives it if that
    is right. -/
def settle (s : State) : State :=
  let fs := s.task.world.files
  let name := Bytes.ofString "PWD"
  let here := s.task.process.directory
  let told :=
    match s.valueOf? name with
    | some value =>
      if (⟨value⟩ : Path).isAbsolute then
        match fs.locate .root ⟨value⟩ with
        | .ok found => if found.node = here.node then some value else none
        | .error _ => none
      else none
    | none => none
  match told.or ((fs.currentPath? here).map Path.bytes) with
  | none => s
  | some value => (s.assign name value).publish name

/-- Runs a script. -/
def runScript (s : State) (script : Bytes) : Ended :=
  let tokens := lex (ofBytes script)
  let last := countLines (ofBytes script) + 1
  match runTokens last (tokens.length + 1) (settle s) tokens with
  | (.killed signal, s) => s.task.leave (.signalled signal)
  | (_, s) => s.task.finish s.status

end Scripting

namespace Tools

open Scripting in
/-- Runs the script of a file, of an argument, or of the input. -/
def interpreter : Tool := fun t arguments =>
  let own := t.process.arguments.headD []
  let begin (name : Bytes) (parameters : List Bytes) (script : Bytes) (t : Task) : Ended :=
    Scripting.runScript { task := t, name, parameters } script
  match arguments with
  | [45, 99] :: script :: name :: parameters => begin name parameters script t
  | [45, 99] :: script :: [] => begin own [] script t
  | [45, 99] :: [] =>
    let s : State := { task := t, name := own, parameters := [] }
    ((s.report 0 "-c requires an argument").task).finish misuse
  | file :: parameters =>
    match t.readFile ⟨file⟩ with
    | .ok script => begin file parameters script t
    | .error reason =>
      let s : State := { task := t, name := own, parameters := [] }
      let message :=
        if reason = .isDirectory then "reading " ++ file.toStringLossy ++ ": " ++ reason.description
        else openTrouble "open" file reason "No such file"
      ((s.report 0 message).task).finish misuse
  | [] =>
    let (result, t) := t.readInput
    begin own [] (result.toOption.getD []) t

end Tools

end CommandShell

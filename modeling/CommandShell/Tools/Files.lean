import CommandShell.Tools.Quoting
import CommandShell.Tools.Task

namespace CommandShell

/-!
# Tools.Files — programs that show, make and remove files

* `Tools.cat`, `Tools.head`, `Tools.wc` — the content of files, its beginning, its size;
* `Tools.mkdir`, `Tools.rmdir` — directories;
* `Tools.pwd` — the working directory.
-/

namespace Tools

/-- The options and the operands among arguments. A lone dash is an operand, and after two dashes
    all arguments are. -/
def splitArguments : List Bytes → List Bytes × List Bytes
  | [] => ([], [])
  | argument :: rest =>
    if argument = [45, 45] then ([], rest)
    else
      let (options, operands) := splitArguments rest
      match argument with
      | 45 :: _ :: _ => (argument :: options, operands)
      | _ => (options, argument :: operands)

/-- The options of one letter each that an option with several letters is short for. -/
def splitOption : Bytes → List Bytes
  | 45 :: 45 :: name => [45 :: 45 :: name]
  | 45 :: letters => letters.map fun letter => [45, letter]
  | _ => []

/-- Ends a program that does not know an option. -/
def refuseOption (t : Task) (option : Bytes) (code : Nat := 1) : Ended :=
  match option with
  | 45 :: letter :: _ =>
    if letter = 45 then t.refuse ("unrecognized option '" ++ option.toStringLossy ++ "'") code
    else t.refuse ("invalid option -- '" ++ Bytes.toStringLossy [letter] ++ "'") code
  | _ => t.refuse "invalid option" code

/-- The complaint about a file. -/
def warnAbout (t : Task) (name : Bytes) (reason : Errno) : Task :=
  t.warn (Quoting.ifNeeded name ++ ": " ++ reason.description)

/-- The name of the input among operands. -/
def inputName : Bytes := [45]

/-- Reads the file of an operand, or the input. -/
def readOperand (t : Task) (operand : Bytes) : Except Errno Bytes × Task :=
  if operand = inputName then t.readInput else (t.readFile ⟨operand⟩, t)

/-- The node that an inlet reads from. -/
def inletNode? : Inlet → Option NodeId
  | .file handle => some handle.node
  | _ => none

/-- Whether an operand names the regular file that the output goes to, with something in it that
    was not read yet. -/
def feedsOutput (t : Task) (operand : Bytes) : Bool :=
  let node? :=
    if operand = inputName then inletNode? t.process.input else (t.openFile ⟨operand⟩).toOption
  let offset :=
    match t.process.input with
    | .file handle => if operand = inputName then handle.offset else 0
    | _ => 0
  match node?, t.process.output.openNode? with
  | some source, some target =>
    source = target && match t.world.files.node? source with
      | some (.file _ content) => offset < content.length
      | _ => false
  | _, _ => false

/-- Writes the content of one operand to the output, and tells whether that went well. Once writing
    has failed no more operands are read. -/
def catOne (state : Task × Bool) (operand : Bytes) : Task × Bool :=
  let (t, fine) := state
  -- There is nobody left to read for.
  if t.trouble.isSome then state
  else if feedsOutput t operand then
    (t.warn (Quoting.ifNeeded operand ++ ": input file is output file"), false)
  else
    match readOperand t operand with
    | (.error reason, t) => (warnAbout t operand reason, false)
    | (.ok content, t) => (t.print content, fine)

/-- Writes the content of files to the output, one after the other. -/
def cat : Tool := fun t arguments =>
  let (options, operands) := splitArguments arguments
  match options.find? (· ≠ Bytes.ofString "-u") with
  | some option => refuseOption t option
  | none =>
    let (t, fine) := (if operands.isEmpty then [inputName] else operands).foldl catOne (t, true)
    t.close (if fine then 0 else 1)

/-- The first lines of a content, each with its newline. -/
def firstLines (count : Nat) (content : Bytes) : Bytes :=
  let pieces := Bytes.splitOn Bytes.newline content
  if pieces.length ≤ count then content
  else (pieces.take count).flatMap (· ++ [Bytes.newline])

/-- What is asked of the beginning of files. -/
structure HeadRequest where
  /-- How many lines, or bytes. -/
  count : Nat := 10
  /-- Whether bytes are counted. -/
  bytes : Bool := false

/-- The number that digits stand for. -/
def natural? (digits : Bytes) : Option Nat :=
  if digits.isEmpty ∨ digits.any (fun b => b < 48 || 57 < b) then none
  else some (digits.foldl (fun n b => n * 10 + (b.toNat - 48)) 0)

/-- The request for a number of lines or bytes, or how it is refused. -/
def headCount (bytes : Bool) (digits : Bytes) : Except (Task → Ended) HeadRequest :=
  match natural? digits with
  | some count => .ok { count, bytes }
  | none =>
    let what := if bytes then "bytes" else "lines"
    .error fun t =>
      (t.warn ("invalid number of " ++ what ++ ": " ++ Quoting.plain digits)).finish 1

/-- Reads the options for the beginning of files: the request and the operands, or how they are
    refused. -/
def readHead (request : HeadRequest) :
    List Bytes → Except (Task → Ended) (HeadRequest × List Bytes)
  | [] => .ok (request, [])
  | [45, 110] :: count :: rest => do readHead (← headCount false count) rest
  | [45, 99] :: count :: rest => do readHead (← headCount true count) rest
  | [45, 110] :: [] => .error fun t => t.refuse "option requires an argument -- 'n'"
  | [45, 99] :: [] => .error fun t => t.refuse "option requires an argument -- 'c'"
  | [45, 45] :: rest => .ok (request, rest)
  | (45 :: 110 :: count) :: rest => do readHead (← headCount false count) rest
  | (45 :: 99 :: count) :: rest => do readHead (← headCount true count) rest
  | (45 :: b :: count) :: rest =>
    match natural? (b :: count) with
    | some count => readHead { count, bytes := false } rest
    | none => .error fun t => refuseOption t (45 :: b :: count)
  | operand :: rest => do
    let (request, operands) ← readHead request rest
    .ok (request, operand :: operands)

/-- The beginning of a content. -/
def HeadRequest.of (request : HeadRequest) (content : Bytes) : Bytes :=
  if request.bytes then content.take request.count else firstLines request.count content

/-- Writes the beginning of one operand; `titled` tells whether its name is written before it. A
    directory can be opened, but nothing can be read from it. -/
def headOne (request : HeadRequest) (titled : Bool) (state : Task × Bool × Bool)
    (operand : Bytes) : Task × Bool × Bool :=
  let (t, first, fine) := state
  let shown := if operand = inputName then Bytes.ofString "standard input" else operand
  let title :=
    if titled then
      (if first then [] else [Bytes.newline]) ++ Bytes.ofString "==> " ++ shown ++
        Bytes.ofString " <==\n"
    else []
  match readOperand t operand with
  | (.error .isDirectory, t) =>
    let t := t.print title
    if request.count = 0 then (t, false, fine)
    else
      let complaint :=
        "error reading " ++ Quoting.always shown ++ ": " ++ Errno.isDirectory.description
      (t.warn complaint, false, false)
  | (.error reason, t) =>
    let complaint :=
      "cannot open " ++ Quoting.always operand ++ " for reading: " ++ reason.description
    (t.warn complaint, first, false)
  | (.ok content, t) => (t.print (title ++ request.of content), false, fine)

/-- Writes the beginning of files. -/
def head : Tool := fun t arguments =>
  match readHead {} arguments with
  | .error refusal => refusal t
  | .ok (request, operands) =>
    let operands := if operands.isEmpty then [inputName] else operands
    let (t, _, fine) := operands.foldl (headOne request (1 < operands.length)) (t, true, true)
    t.close (if fine then 0 else 1)

/-- Whether the byte separates words. -/
def isSpace (b : UInt8) : Bool := b = 32 || (9 ≤ b && b ≤ 13)

/-- Whether the byte shows as a mark of its own. -/
def isMark (b : UInt8) : Bool := 33 ≤ b && b ≤ 126

/-- How many words there are: each begins with a byte that shows, and goes on to the next byte that
    separates words. -/
def countWords (content : Bytes) : Nat :=
  (content.foldl (fun (state : Nat × Bool) b =>
    if isSpace b then (state.1, false)
    else if isMark b && !state.2 then (state.1 + 1, true)
    else state) (0, false)).1

/-- The counts of a content: newlines, words and bytes. -/
def counts (content : Bytes) : List Nat :=
  [content.count Bytes.newline, countWords content, content.length]

/-- The chosen ones of some counts, in columns of a width. -/
def countLine (chosen : List Bool) (width : Nat) (numbers : List Nat) (name : Bytes) : Bytes :=
  let shown := ((numbers.zip chosen).filter (·.2)).map fun (n, _) =>
    let digits := toString n
    "".pushn ' ' (width - digits.length) ++ digits
  Bytes.ofString (" ".intercalate shown) ++
    (if name.isEmpty then [] else 32 :: name) ++ [Bytes.newline]

/-- The size of the regular file of an operand; nothing for another file, and no file at all if
    there is none. -/
def sizeOf? (t : Task) (operand : Bytes) : Option (Option Nat) :=
  let sizeOfNode (id : NodeId) : Option Nat :=
    match t.world.files.node? id with
    | some (.file _ content) => some content.length
    | _ => none
  if operand = inputName then
    match t.process.input with
    | .terminal => some (some t.world.terminal.input.pending.length)
    | inlet => some ((inletNode? inlet).bind sizeOfNode)
  else (t.openFile ⟨operand⟩).toOption.map sizeOfNode

/-- The width of the columns: that of the sum of all sizes, and at least seven if some size is not
    known before counting. A single number takes the room it needs. -/
def countWidth (sizes : List (Option (Option Nat))) (columns : Nat) : Nat :=
  if sizes.length = 1 ∧ columns = 1 then 1
  else
    let known := sizes.filterMap id
    let digits := (toString ((known.filterMap id).foldl (· + ·) 0)).length
    if known.any Option.isNone then max 7 digits else digits

/-- Counts one operand: writes its counts, and adds them to the totals. What is there but cannot be
    read has nothing to count. -/
def wcOne (chosen : List Bool) (width : Nat) (state : Task × List Nat × Bool)
    (entry : Bytes × Bytes) : Task × List Nat × Bool :=
  let (t, totals, fine) := state
  match readOperand t entry.2 with
  | (.error reason, t) =>
    let shown := if entry.1.isEmpty then Bytes.ofString "standard input" else entry.2
    let t := warnAbout t shown reason
    if reason = .isDirectory then
      (t.print (countLine chosen width [0, 0, 0] entry.1), totals, false)
    else (t, totals, false)
  | (.ok content, t) =>
    let numbers := counts content
    (t.print (countLine chosen width numbers entry.1), List.zipWith (· + ·) totals numbers, fine)

/-- Counts the lines, words and bytes of files. -/
def wc : Tool := fun t arguments =>
  let (options, operands) := splitArguments arguments
  let letters : List UInt8 := (options.map (·.drop 1)).flatten
  let known : List UInt8 := [108, 119, 99]
  match (options.flatMap splitOption).find? fun option => !known.contains (option[1]?.getD 0) with
  | some option => refuseOption t option
  | none =>
    let chosen :=
      if letters.isEmpty then [true, true, true]
      else [letters.contains 108, letters.contains 119, letters.contains 99]
    let named := if operands.isEmpty then [([], inputName)] else operands.map fun o => (o, o)
    let width := countWidth (named.map fun entry => sizeOf? t entry.2) (chosen.filter id).length
    let (t, totals, fine) := named.foldl (wcOne chosen width) (t, [0, 0, 0], true)
    let t :=
      if named.length ≤ 1 then t
      else t.print (countLine chosen width totals (Bytes.ofString "total"))
    if t.trouble.isSome then (t.warn "write error").finish 1
    else t.finish (if fine then 0 else 1)

/-- Does something for each operand; the code tells whether all went well. A program without
    operands, or with an option it does not know, does nothing. -/
def forEach (act : FileSystem → Location → Path → Except Errno FileSystem)
    (complaint : FileSystem → Location → Bytes → Errno → String) : Tool := fun t arguments =>
  let (options, operands) := splitArguments arguments
  match options, operands with
  | option :: _, _ => refuseOption t option
  | [], [] => t.refuse "missing operand"
  | [], operands =>
    let step (state : Task × Bool) (operand : Bytes) : Task × Bool :=
      let (t, fine) := state
      let fs := t.world.files
      match act fs t.process.directory ⟨operand⟩ with
      | .ok files => ({ t with world := { t.world with files } }, fine)
      | .error reason => (t.warn (complaint fs t.process.directory operand reason), false)
    let (t, fine) := operands.foldl step (t, true)
    t.close (if fine then 0 else 1)

/-- Makes directories. -/
def mkdir : Tool := forEach FileSystem.makeDirectory fun _ _ operand reason =>
  "cannot create directory " ++ Quoting.plain operand ++ ": " ++ reason.description

/-- Whether a path with a separator at its end names a link that does not lead to a file. -/
def isLinkWithSlash (fs : FileSystem) (start : Location) (operand : Bytes) : Bool :=
  let trimmed := (operand.reverse.dropWhile (· = Path.separator)).reverse
  let leads :=
    match fs.locate start ⟨operand⟩ with
    | .ok _ => true
    | .error reason => reason ≠ .notDirectory
  operand.getLast? == some Path.separator && leads &&
    match fs.entryAt? start ⟨trimmed⟩ with
    | some (.link _) => true
    | _ => false

/-- Removes empty directories. -/
def rmdir : Tool := forEach FileSystem.removeDirectory fun fs start operand reason =>
  let cause :=
    if reason = .notDirectory ∧ isLinkWithSlash fs start operand then "Symbolic link not followed"
    else reason.description
  "failed to remove " ++ Quoting.always operand ++ ": " ++ cause

/-- Prints the working directory. -/
def pwd : Tool := fun t arguments =>
  let (options, operands) := splitArguments arguments
  let known : List Bytes := [Bytes.ofString "-P", Bytes.ofString "-L"]
  match options.find? (!known.contains ·) with
  | some option => refuseOption t option
  | none =>
    let t := if operands.isEmpty then t else t.warn "ignoring non-option arguments"
    match t.world.files.currentPath? t.process.directory with
    | some path => (t.print (path.bytes ++ [Bytes.newline])).close 0
    | none => (t.warn "couldn't find directory entry in '..' with matching i-node").finish 1

end Tools

end CommandShell

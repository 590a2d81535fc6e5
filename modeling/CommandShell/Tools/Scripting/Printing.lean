import CommandShell.Tools.Scripting.Flow

namespace CommandShell

/-!
# Scripting.Printing — the commands of scripts that print

* `Scripting.echo` — words, with escapes;
* `Scripting.printf` — words put into a pattern, as often as there are words for it;
* `Scripting.pwd` — the working directory.
-/

namespace Scripting

/-! ### Escapes -/

/-- Up to so many digits in base eight: the number, and the characters after it. -/
def octalPrefix : (count : Nat) → (value : Nat) → List Char → Nat × List Char
  | 0, value, cs => (value, cs)
  | _ + 1, value, [] => (value, [])
  | count + 1, value, c :: rest =>
    if '0' ≤ c ∧ c ≤ '7' then octalPrefix count (value * 8 + (c.toNat - 48)) rest
    else (value, c :: rest)

/-- The character that a letter after a backslash stands for. -/
def escaped? : Char → Option Char
  | 'a' => some '\x07'
  | 'b' => some '\x08'
  | 'f' => some '\x0c'
  | 'n' => some '\n'
  | 'r' => some '\r'
  | 't' => some '\t'
  | 'v' => some '\x0b'
  | '\\' => some '\\'
  | _ => none

/-- A text with its escapes replaced, and whether one of them ends all output. -/
def unescape : (steps : Nat) → List Char → List Char × Bool
  | 0, _ => ([], false)
  | steps + 1, cs =>
    let after (c : Char) (rest : List Char) : List Char × Bool :=
      let (text, ends) := unescape steps rest
      (c :: text, ends)
    match cs with
    | [] => ([], false)
    | '\\' :: 'c' :: _ => ([], true)
    | '\\' :: '0' :: rest =>
      let (value, rest) := octalPrefix 3 0 rest
      after (Char.ofNat (value % 256)) rest
    | '\\' :: c :: rest =>
      if '1' ≤ c ∧ c ≤ '7' then
        let (value, rest) := octalPrefix 3 0 (c :: rest)
        after (Char.ofNat (value % 256)) rest
      else
        match escaped? c with
        | some meant => after meant rest
        | none => after '\\' (c :: rest)
    | c :: rest => after c rest

/-- The words with spaces between them, escapes replaced; none after an escape that ends all
    output. The flag tells whether there was such an escape. -/
def echoText : List Bytes → List Char × Bool
  | [] => ([], false)
  | [word] => unescape (word.length + 1) (ofBytes word)
  | word :: rest =>
    let (text, ends) := unescape (word.length + 1) (ofBytes word)
    if ends then (text, true)
    else
      let (others, ends) := echoText rest
      (text ++ ' ' :: others, ends)

/-- Prints its arguments. -/
def echo : OwnCommand := fun line s arguments =>
  let (silent, words) :=
    match arguments with
    | [45, 110] :: rest => (true, rest)
    | _ => (false, arguments)
  let (text, ends) := echoText words
  let bytes := toBytes text ++ (if silent || ends then [] else [Bytes.newline])
  (.next, s.printFor line "echo" bytes)

/-! ### Patterns -/

/-- A part of a pattern. -/
inductive PatternPart where
  /-- Text that is printed as it is. -/
  | text (content : List Char)
  /-- A word as it is. -/
  | word
  /-- The first character of a word. -/
  | character
  /-- A word that is a number. -/
  | number
  /-- A letter that says nothing. -/
  | unknown (letter : Char)
deriving DecidableEq, Repr

/-- The part that a letter after a percent sign stands for. -/
def partNamed : Char → PatternPart
  | '%' => .text ['%']
  | 's' => .word
  | 'c' => .character
  | 'd' => .number
  | 'i' => .number
  | letter => .unknown letter

/-- The parts of a pattern, its escapes replaced. -/
def patternParts : (steps : Nat) → List Char → List PatternPart
  | 0, _ => []
  | steps + 1, cs =>
    match cs with
    | '%' :: letter :: rest => partNamed letter :: patternParts steps rest
    | '\\' :: c :: rest =>
      if '0' ≤ c ∧ c ≤ '7' then
        let (value, rest) := octalPrefix 3 0 (c :: rest)
        .text [Char.ofNat (value % 256)] :: patternParts steps rest
      else
        match escaped? c with
        | some meant => .text [meant] :: patternParts steps rest
        | none => .text ['\\'] :: patternParts steps (c :: rest)
    | c :: rest => .text [c] :: patternParts steps rest
    | [] => []

/-- What printing a pattern gives: the text, the words that are left, the words that should have
    been numbers, and the letter that says nothing if the pattern stops there. -/
structure Printed where
  /-- The text. -/
  text : Bytes := []
  /-- The words that are left. -/
  left : List Bytes
  /-- The words that should have been numbers. -/
  unread : List Bytes := []
  /-- The letter that the pattern stops at. -/
  stopped : Option Char := none

/-- Adds a text. -/
def Printed.add (p : Printed) (text : Bytes) : Printed := { p with text := p.text ++ text }

/-- Takes the next word; none is an empty one. -/
def Printed.takeWord (p : Printed) : Bytes × Printed :=
  (p.left.headD [], { p with left := p.left.tail })

/-- The decimal digits of a word that is a number. -/
def digits? (word : Bytes) : Option Bytes :=
  match word with
  | [] => some [48]
  | 43 :: digits => (number? digits).map fun n => Bytes.ofString (toString n)
  | 45 :: digits =>
    (number? digits).map fun n => Bytes.ofString (if n = 0 then "0" else "-" ++ toString n)
  | digits => (number? digits).map fun n => Bytes.ofString (toString n)

/-- Prints one part. -/
def Printed.part (p : Printed) (part : PatternPart) : Printed :=
  if p.stopped.isSome then p
  else match part with
    | .text content => p.add (toBytes content)
    | .word =>
      let (word, p) := p.takeWord
      p.add word
    | .character =>
      let (word, p) := p.takeWord
      p.add (word.take 1)
    | .number =>
      let (word, p) := p.takeWord
      match digits? word with
      | some digits => p.add digits
      | none => { p.add [48] with unread := p.unread ++ [word] }
    | .unknown letter => { p with stopped := some letter }

/-- Prints a pattern over and over, as long as it takes words and there are more. -/
def printAll (parts : List PatternPart) : (rounds : Nat) → Printed → Printed
  | 0, p => p
  | rounds + 1, p =>
    let after := parts.foldl Printed.part p
    if after.left.isEmpty ∨ after.left.length = p.left.length ∨ after.stopped.isSome then after
    else printAll parts rounds after

/-- Prints words in the pattern before them. -/
def printPattern : OwnCommand := fun line s arguments =>
  match arguments with
  | [] => (.next, (s.report line "printf: usage: printf format [arg ...]").withStatus 2)
  | pattern :: words =>
    let parts := patternParts (ofBytes pattern).length (ofBytes pattern)
    let printed := printAll parts (words.length + 1) { left := words }
    let s := s.printFor line "printf" printed.text
    let complain (s : State) (word : Bytes) : State :=
      (s.report line ("printf: " ++ word.toStringLossy ++ ": expected numeric value")).withStatus 1
    let s := printed.unread.foldl complain s
    match printed.stopped with
    | none => (.next, s)
    | some letter =>
      (.next, (s.report line
        ("printf: %" ++ String.singleton letter ++ ": invalid directive")).withStatus 2)

/-- Prints words in a pattern, two dashes before it left out. -/
def printf : OwnCommand := fun line s arguments =>
  match arguments with
  | [45, 45] :: rest => printPattern line s rest
  | _ => printPattern line s arguments

/-! ### The directory -/

/-- Prints the working directory, as the script came to it. -/
def pwd : OwnCommand := fun line s _ =>
  let shown :=
    match s.valueOf? (Bytes.ofString "PWD") with
    | some value => value
    | none =>
      ((s.task.world.files.currentPath? s.task.process.directory).map Path.bytes).getD []
  (.next, s.printFor line "pwd" (shown ++ [Bytes.newline]))

end Scripting

end CommandShell

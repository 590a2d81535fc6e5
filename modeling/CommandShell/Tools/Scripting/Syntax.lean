namespace CommandShell

/-!
# Scripting.Syntax — the commands of a script

Scripts are sequences of bytes; a character stands for the byte of its number.

* `Scripting.Piece`, `Scripting.Word` — words before their parameters are filled in;
* `Scripting.Redirect` — files and descriptors in place of the standard streams;
* `Scripting.Command` — commands, and how they are put together;
* `Scripting.Token` — what a script is cut into.
-/

namespace Scripting

/-- A part of a word. -/
inductive Piece where
  /-- A character, and whether it was quoted. -/
  | char (c : Char) (quoted : Bool)
  /-- The value of a parameter, and whether it was quoted. -/
  | parameter (name : List Char) (quoted : Bool)
  /-- Quotes with nothing between them. -/
  | nothing
deriving DecidableEq, Repr

/-- A word before its parameters are filled in. -/
abbrev Word := List Piece

/-- The text of a word without quotes and parameters. -/
def plainText? (word : Word) : Option (List Char) :=
  word.mapM fun piece =>
    match piece with
    | .char c false => some c
    | _ => none

/-- What stands in place of a standard stream. -/
inductive Redirect where
  /-- Standard input is read from a file. -/
  | read (file : Word)
  /-- The stream of a number is written to a file, at its end or over its content. -/
  | write (stream : Nat) (append : Bool) (file : Word)
  /-- The stream of a number goes where another one goes. -/
  | join (stream : Nat) (other : Word)
deriving Repr

/-- Commands, and how they are put together. -/
inductive Command where
  /-- Does nothing. -/
  | empty
  /-- Assigns variables and runs a command by name, if there is one. -/
  | simple (line : Nat) (assignments : List (List Char × Word)) (words : List Word)
      (redirects : List Redirect)
  /-- One after the other. -/
  | sequence (first second : Command)
  /-- The second if the first succeeds. -/
  | both (first second : Command)
  /-- The second if the first fails. -/
  | either (first second : Command)
  /-- Succeeds if the command fails. -/
  | negated (body : Command)
  /-- The output of the first is the input of the second. -/
  | pipe (first second : Command)
  /-- Runs without being waited for. -/
  | background (body : Command)
  /-- Runs with other streams; `apart` tells whether its variables are its own. -/
  | group (line : Nat) (apart : Bool) (body : Command) (redirects : List Redirect)
  /-- The second if the condition holds, else the third. -/
  | branch (condition yes no : Command)
  /-- As long as the condition succeeds, or fails. -/
  | loop (sense : Bool) (condition body : Command)
  /-- For every word, or for every parameter of the script. -/
  | forEach (name : List Char) (words : Option (List Word)) (body : Command)
deriving Repr

/-- What a script is cut into. -/
inductive Token where
  /-- A word. -/
  | word (w : Word)
  /-- A mark of punctuation. -/
  | mark (text : String)
  /-- The number of a stream right before a redirection. -/
  | stream (number : Nat)
  /-- The end of a line. -/
  | newline
  /-- A quote that is never closed. -/
  | unclosed
deriving Repr

/-- A token and the line it stands on. -/
structure Lexeme where
  /-- The token. -/
  token : Token
  /-- The line. -/
  line : Nat
deriving Repr

end Scripting

end CommandShell

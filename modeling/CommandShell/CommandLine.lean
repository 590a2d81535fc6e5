import CommandShell.Words
import CommandShell.Redirection

namespace CommandShell

/-!
# CommandLine — a line that was read

A line is `word… [< file] [> file | >> file] [&]`, the directives anywhere.

* `CommandLine` — the words, the directives and whether to wait;
* `CommandLine.takeMarker` — the trailing `&` of a list of words;
* `CommandLine.parse` — reads a line; a line without words is no command line.
-/

/-- A line that was read. -/
structure CommandLine where
  /-- The name of the command and its arguments. -/
  words : List String
  /-- The directives in their order. -/
  redirections : List Redirection
  /-- Whether the shell goes on without waiting. -/
  background : Bool
deriving DecidableEq, Repr

namespace CommandLine

/-- The word that asks the shell, at the end of a line, not to wait. -/
def marker : String := "&"

/-- The words without the marker at their end, and whether there was one. -/
def takeMarker (words : List String) : Bool × List String :=
  if words.getLast? = some marker then (true, words.dropLast) else (false, words)

/-- The name of the command, if there is any. -/
def name? (line : CommandLine) : Option String := line.words.head?

/-- The arguments of the command. -/
def arguments (line : CommandLine) : List String := line.words.tail

/-- Reads the words of a line. -/
def ofWords (words : List String) : Except Failure CommandLine :=
  let extraction := Redirection.extract words
  match extraction.result with
  | .error failure => .error failure
  | .ok redirections =>
    let (background, words) := takeMarker extraction.words
    .ok { words, redirections, background }

/-- Reads a line; none if it has no words. -/
def parse (line : String) : Except Failure (Option CommandLine) :=
  match CommandShell.words line with
  | [] => .ok none
  | word :: rest => (ofWords (word :: rest)).map some

end CommandLine

end CommandShell

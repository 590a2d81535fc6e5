namespace CommandShell

/-!
# Words — a line taken apart

A line is a sequence of words between runs of delimiters. There is no quoting: every character
that is no delimiter belongs to a word as it is.

* `isDelimiter` — space, newline and carriage return;
* `Words.runs` — the words of a list of characters;
* `words` — the words of a line.
-/

/-- Whether the character separates words. -/
def isDelimiter (c : Char) : Bool := c = ' ' || c = '\n' || c = '\r'

namespace Words

/-- Puts a character in front of a line that is taken apart: the word that begins the line, which
    may be empty, and the words after it. -/
def extend (c : Char) (taken : List Char × List (List Char)) : List Char × List (List Char) :=
  if isDelimiter c then ([], if taken.1.isEmpty then taken.2 else taken.1 :: taken.2)
  else (c :: taken.1, taken.2)

/-- The maximal runs of characters that are no delimiters. -/
def runs (cs : List Char) : List (List Char) :=
  let taken := cs.foldr extend ([], [])
  if taken.1.isEmpty then taken.2 else taken.1 :: taken.2

end Words

/-- The words of a line. -/
def words (line : String) : List String := (Words.runs line.toList).map String.ofList

end CommandShell

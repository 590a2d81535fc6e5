namespace CommandShell

/-!
# Toml.Text — the strings of TOML

* `Toml.isText` — the characters that may stand in a line;
* `Toml.takeNewline` — the end of a line;
* `Toml.escape?` — the character that an escape stands for;
* `Toml.basic`, `Toml.literal` — strings on one line, with and without escapes;
* `Toml.basicLines`, `Toml.literalLines` — strings over several lines;
* `Toml.string?` — a string of any kind.

Each reader gets the characters after the opening quotes, and gives the content and the characters
after the closing ones.
-/

namespace Toml

/-- Whether the character is a blank within a line. -/
def isBlank (c : Char) : Bool := c = ' ' || c = '\t'

/-- Whether the character may stand in a line as it is. -/
def isText (c : Char) : Bool := c = '\t' || (0x20 ≤ c.toNat && c.toNat ≠ 0x7F)

/-- What follows a newline; none where there is no newline. -/
def takeNewline : List Char → Option (List Char)
  | '\n' :: rest => some rest
  | '\r' :: '\n' :: rest => some rest
  | _ => none

/-- The value of a digit in base sixteen. -/
def hexValue? (c : Char) : Option Nat :=
  if c.isDigit then some (c.toNat - 48)
  else if 'a' ≤ c ∧ c ≤ 'f' then some (c.toNat - 87)
  else if 'A' ≤ c ∧ c ≤ 'F' then some (c.toNat - 55)
  else none

/-- The character whose number is written with so many digits in base sixteen. -/
def scalarOf? (count : Nat) (cs : List Char) : Option Char :=
  if cs.length < count then none
  else match (cs.take count).mapM hexValue? with
    | none => none
    | some digits =>
      let n := digits.foldl (fun n d => n * 16 + d) 0
      if n.isValidChar then some (Char.ofNat n) else none

/-- The character that an escape stands for, and how many characters it takes. -/
def escape? : List Char → Option (Char × Nat)
  | 'b' :: _ => some ('\x08', 1)
  | 't' :: _ => some ('\t', 1)
  | 'n' :: _ => some ('\n', 1)
  | 'f' :: _ => some ('\x0c', 1)
  | 'r' :: _ => some ('\r', 1)
  | '"' :: _ => some ('"', 1)
  | '\\' :: _ => some ('\\', 1)
  | 'u' :: rest => (scalarOf? 4 rest).map (·, 5)
  | 'U' :: rest => (scalarOf? 8 rest).map (·, 9)
  | _ => none

/-- A string that a quote ends, where a backslash begins an escape; `done` holds what was read of
    it, the last character first. -/
def basic (done : List Char) : List Char → Option (String × List Char)
  | [] => none
  | c :: rest =>
    if c = '"' then some (String.ofList done.reverse, rest)
    else if c = '\\' then
      match escape? rest with
      | none => none
      | some (meant, count) => basic (meant :: done) (rest.drop count)
    else if isText c then basic (c :: done) rest
    else none
termination_by cs => cs.length
decreasing_by all_goals exact Nat.lt_succ_of_le (by simp)

/-- A string that an apostrophe ends, without escapes. -/
def literal (done : List Char) : List Char → Option (String × List Char)
  | [] => none
  | c :: rest =>
    if c = '\'' then some (String.ofList done.reverse, rest)
    else if isText c then literal (c :: done) rest
    else none

/-- How many of the quotes at the front belong to a string over several lines, and whether it ends
    after them. Three end it, and up to two more before them belong to it. -/
def quoteRun (quote : Char) (cs : List Char) : Nat × Bool :=
  let count := (cs.takeWhile (· = quote)).length
  if count < 3 then (count, false) else (min (count - 3) 2, true)

/-- What follows blanks and newlines. -/
def skipSpace : List Char → List Char
  | '\r' :: '\n' :: rest => skipSpace rest
  | '\n' :: rest => skipSpace rest
  | c :: rest => if isBlank c then skipSpace rest else c :: rest
  | [] => []

/-- What follows a backslash at the end of a line: blanks and newlines up to the next character. -/
def takeLineEnd (cs : List Char) : Option (List Char) :=
  (takeNewline (cs.dropWhile isBlank)).map skipSpace

/-- A string over several lines where a backslash begins an escape, or at the end of a line leaves
    out what separates it from the next character. At most `steps` characters are read. -/
def basicLines (done : List Char) : (steps : Nat) → List Char → Option (String × List Char)
  | 0, _ => none
  | steps + 1, cs =>
    match takeNewline cs with
    | some rest => basicLines ('\n' :: done) steps rest
    | none =>
      match cs with
      | [] => none
      | c :: rest =>
        if c = '"' then
          let (count, ends) := quoteRun '"' cs
          let done := List.replicate count '"' ++ done
          if ends then some (String.ofList done.reverse, cs.drop (count + 3))
          else basicLines done steps (cs.drop count)
        else if c = '\\' then
          -- A backslash at the end of a line is no escape, whatever follows on the next.
          match takeLineEnd rest, escape? rest with
          | some rest, _ => basicLines done steps rest
          | none, some (meant, taken) => basicLines (meant :: done) steps (rest.drop taken)
          | none, none => none
        else if isText c then basicLines (c :: done) steps rest
        else none

/-- A string over several lines without escapes. At most `steps` characters are read. -/
def literalLines (done : List Char) : (steps : Nat) → List Char → Option (String × List Char)
  | 0, _ => none
  | steps + 1, cs =>
    match takeNewline cs with
    | some rest => literalLines ('\n' :: done) steps rest
    | none =>
      match cs with
      | [] => none
      | c :: rest =>
        if c = '\'' then
          let (count, ends) := quoteRun '\'' cs
          let done := List.replicate count '\'' ++ done
          if ends then some (String.ofList done.reverse, cs.drop (count + 3))
          else literalLines done steps (cs.drop count)
        else if isText c then literalLines (c :: done) steps rest
        else none

/-- A string of any kind. A newline right after three opening quotes does not belong to it. -/
def string? : List Char → Option (String × List Char)
  | '"' :: '"' :: '"' :: rest => basicLines [] (rest.length + 1) ((takeNewline rest).getD rest)
  | '\'' :: '\'' :: '\'' :: rest =>
    literalLines [] (rest.length + 1) ((takeNewline rest).getD rest)
  | '"' :: rest => basic [] rest
  | '\'' :: rest => literal [] rest
  | _ => none

end Toml

end CommandShell

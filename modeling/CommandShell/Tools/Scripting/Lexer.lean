import CommandShell.Tools.Scripting.Syntax

namespace CommandShell

/-!
# Scripting.Lexer — the tokens of a script

* `Scripting.parameter?` — the name of a parameter after a dollar sign;
* `Scripting.lexWord` — a word up to the character that ends it;
* `Scripting.lex` — the tokens of a script.
-/

namespace Scripting

/-- Whether the character ends a word that is not quoted. -/
def endsWord (c : Char) : Bool :=
  [' ', '\t', '\n', ';', '&', '|', '<', '>', '(', ')'].contains c

/-- Whether the character may begin a name. -/
def beginsName (c : Char) : Bool := c.isAlpha || c = '_'

/-- Whether the character may stand in a name. -/
def isNameChar (c : Char) : Bool := c.isAlphanum || c = '_'

/-- The name of a parameter after a dollar sign, and how many characters it takes. -/
def parameter? : List Char → Option (List Char × Nat)
  | '\x7b' :: rest =>
    let name := rest.takeWhile (· ≠ '\x7d')
    if name.isEmpty ∨ name.length = rest.length then none else some (name, name.length + 2)
  | c :: rest =>
    if ['@', '*', '#', '?', '-', '$', '!'].contains c ∨ c.isDigit then some ([c], 1)
    else if beginsName c then
      let name := c :: rest.takeWhile isNameChar
      some (name, name.length)
    else none
  | [] => none

/-- Whether a backslash between double quotes takes the meaning away from the character. -/
def isEscapable (c : Char) : Bool := ['$', '\x60', '"', '\\'].contains c

/-- A word with the characters after it, or nothing if a quote is not closed. `double` tells whether
    double quotes are open, and `done` holds what was read, the last piece first. -/
def lexWord (double : Bool) (done : List Piece) :
    (steps : Nat) → List Char → Option (Word × List Char)
  | 0, _ => none
  | steps + 1, cs =>
    match cs with
    | [] => if double then none else some (done.reverse, [])
    | '\\' :: '\n' :: rest => lexWord double done steps rest
    | '\\' :: c :: rest =>
      if double ∧ ¬ isEscapable c then
        lexWord double (.char c true :: .char '\\' true :: done) steps rest
      else lexWord double (.char c true :: done) steps rest
    | '"' :: rest =>
      if double then lexWord false done steps rest
      else match rest with
        | '"' :: rest => lexWord false (.nothing :: done) steps rest
        | _ => lexWord true done steps rest
    | '$' :: rest =>
      match parameter? rest with
      | some (name, taken) =>
        lexWord double (.parameter name double :: done) steps (rest.drop taken)
      | none => lexWord double (.char '$' double :: done) steps rest
    | c :: rest =>
      if double then lexWord double (.char c true :: done) steps rest
      else if c = '\'' then
        let quoted := rest.takeWhile (· ≠ '\'')
        if quoted.length = rest.length then none
        else
          let pieces := quoted.map fun c => Piece.char c true
          let pieces := if pieces.isEmpty then [Piece.nothing] else pieces
          lexWord false (pieces.reverse ++ done) steps (rest.drop (quoted.length + 1))
      else if endsWord c then some (done.reverse, cs)
      else lexWord false (.char c false :: done) steps rest

/-- The marks of punctuation, the longer ones first. -/
def marks : List String := ["&&", "||", ";;", ">>", ">&", "<&", ";", "&", "|", "(", ")", "<", ">"]

/-- The mark at the front of the characters. -/
def mark? (cs : List Char) : Option String := marks.find? (·.toList.isPrefixOf cs)

/-- The stream number at the front of the characters: a digit right before a redirection. -/
def streamNumber? : List Char → Option Nat
  | digit :: c :: _ =>
    if digit.isDigit ∧ (c = '<' ∨ c = '>') then some (digit.toNat - 48) else none
  | _ => none

/-- How many lines end in the characters. -/
def countLines (cs : List Char) : Nat := cs.count '\n'

/-- The tokens of a script from a line on. -/
def lexFrom (line : Nat) : (steps : Nat) → List Char → List Lexeme
  | 0, _ => []
  | steps + 1, cs =>
    match cs with
    | [] => []
    | '\n' :: rest => ⟨.newline, line⟩ :: lexFrom (line + 1) steps rest
    | '\\' :: '\n' :: rest => lexFrom (line + 1) steps rest
    | c :: rest =>
      if c = ' ' ∨ c = '\t' then lexFrom line steps rest
      else if c = '#' then lexFrom line steps (rest.dropWhile (· ≠ '\n'))
      else match mark? cs with
        | some text => ⟨.mark text, line⟩ :: lexFrom line steps (cs.drop text.length)
        -- A digit right before a redirection is the number of a stream, not a word.
        | none =>
          match streamNumber? cs with
          | some number => ⟨.stream number, line⟩ :: lexFrom line steps rest
          | none =>
            match lexWord false [] (cs.length + 1) cs with
            | none => [⟨.unclosed, line + countLines cs⟩]
            | some (word, after) =>
              let taken := cs.take (cs.length - after.length)
              ⟨.word word, line⟩ :: lexFrom (line + countLines taken) steps after

/-- The tokens of a script. -/
def lex (script : List Char) : List Lexeme := lexFrom 1 (script.length + 1) script

end Scripting

end CommandShell

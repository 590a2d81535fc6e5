import CommandShell.Tools.Scripting.Lexer

namespace CommandShell

/-!
# Scripting.Parser — from tokens to commands

* `Scripting.Fault` — what is wrong with a script, and on which line;
* `Scripting.line?` — the commands of the next line of a script.

The functions on tokens take a number of steps; a script has at least as many characters as the
reading of it takes.
-/

namespace Scripting

/-- What is wrong with a script. -/
structure Fault where
  /-- The line. -/
  line : Nat
  /-- What is said about it. -/
  message : String
deriving Repr

/-- The words that mean something where a command is expected. -/
def reserved : List String :=
  ["if", "then", "else", "elif", "fi", "for", "while", "until", "do", "done", "\x7b", "\x7d", "!"]

/-- The reserved word that a token is. -/
def reserved? : Token → Option String
  | .word w =>
    match plainText? w with
    | none => none
    | some cs =>
      let text := String.ofList cs
      if reserved.contains text then some text else none
  | _ => none

/-- How a token is named in a complaint. -/
def Token.shown (t : Token) : String :=
  match t with
  | .word _ =>
    match reserved? t with
    | some text => "\"" ++ text ++ "\""
    | none => "word"
  | .mark text => "\"" ++ text ++ "\""
  | .stream _ => "redirection"
  | .newline => "newline"
  | .unclosed => "word"

/-- The fault of a token that is not expected. -/
def unexpected (tokens : List Lexeme) (last : Nat) (wanted : Option String) : Fault :=
  let hint :=
    match wanted with
    | some word => " (expecting \"" ++ word ++ "\")"
    | none => ""
  match tokens with
  | [] => ⟨last, "Syntax error: end of file unexpected" ++ hint⟩
  | ⟨.unclosed, line⟩ :: _ => ⟨line, "Syntax error: Unterminated quoted string"⟩
  | ⟨token, line⟩ :: _ => ⟨line, "Syntax error: " ++ token.shown ++ " unexpected" ++ hint⟩

/-- The tokens after the ends of lines. -/
def skipNewlines : List Lexeme → List Lexeme
  | ⟨.newline, _⟩ :: rest => skipNewlines rest
  | tokens => tokens

/-- The tokens after a reserved word. -/
def expect (word : String) (last : Nat) (tokens : List Lexeme) : Except Fault (List Lexeme) :=
  match tokens with
  | lexeme :: rest =>
    if reserved? lexeme.token = some word then .ok rest
    else .error (unexpected tokens last (some word))
  | [] => .error (unexpected tokens last (some word))

/-- The name and value of a word that assigns a variable. -/
def assignment? (w : Word) : Option (List Char × Word) :=
  let isNamePiece : Piece → Bool
    | .char c false => isNameChar c
    | _ => false
  let name := w.takeWhile isNamePiece
  let letters := name.filterMap fun piece =>
    match piece with
    | .char c _ => some c
    | _ => none
  match letters, w.drop name.length with
  | first :: _, .char '=' false :: value => if beginsName first then some (letters, value) else none
  | _, _ => none

/-- The redirection that begins with a mark, and the tokens after it. -/
def redirect? (stream : Option Nat) (text : String) (last : Nat) (tokens : List Lexeme) :
    Option (Except Fault (Redirect × List Lexeme)) :=
  let withWord (make : Word → Redirect) : Except Fault (Redirect × List Lexeme) :=
    match tokens with
    | ⟨.word w, _⟩ :: rest => .ok (make w, rest)
    | _ => .error (unexpected tokens last none)
  match text with
  | "<" => some (withWord .read)
  | ">" => some (withWord (.write (stream.getD 1) false))
  | ">>" => some (withWord (.write (stream.getD 1) true))
  | ">&" => some (withWord (.join (stream.getD 1)))
  | "<&" => some (withWord (.join (stream.getD 0)))
  | _ => none

/-- The redirections at the front of the tokens. -/
def redirects (last : Nat) :
    (steps : Nat) → List Lexeme → Except Fault (List Redirect × List Lexeme)
  | 0, tokens => .ok ([], tokens)
  | steps + 1, tokens =>
    let found :=
      match tokens with
      | ⟨.stream n, _⟩ :: ⟨.mark text, _⟩ :: rest => redirect? (some n) text last rest
      | ⟨.mark text, _⟩ :: rest => redirect? none text last rest
      | _ => none
    match found with
    | none => .ok ([], tokens)
    | some (.error fault) => .error fault
    | some (.ok (r, rest)) =>
      match redirects last steps rest with
      | .error fault => .error fault
      | .ok (others, rest) => .ok (r :: others, rest)

/-- The assignments, words and redirections of a simple command, each the last one first. -/
structure SimpleDraft where
  /-- The assignments. -/
  assignments : List (List Char × Word) := []
  /-- The words. -/
  words : List Word := []
  /-- The redirections. -/
  redirects : List Redirect := []

/-- A simple command. -/
def simple (last line : Nat) (draft : SimpleDraft) :
    (steps : Nat) → List Lexeme → Except Fault (Command × List Lexeme)
  | 0, tokens => .error (unexpected tokens last none)
  | steps + 1, tokens =>
    let finished : Except Fault (Command × List Lexeme) :=
      if draft.assignments.isEmpty ∧ draft.words.isEmpty ∧ draft.redirects.isEmpty then
        .error (unexpected tokens last none)
      else
        .ok (.simple line draft.assignments.reverse draft.words.reverse draft.redirects.reverse,
          tokens)
    match tokens with
    | ⟨.word w, _⟩ :: rest =>
      match draft.words, assignment? w with
      | [], some assigned =>
        simple last line { draft with assignments := assigned :: draft.assignments } steps rest
      | _, _ => simple last line { draft with words := w :: draft.words } steps rest
    | _ =>
      match redirects last 1 tokens with
      | .error fault => .error fault
      | .ok ([r], rest) =>
        simple last line { draft with redirects := r :: draft.redirects } steps rest
      | .ok _ => finished

/-- A compound command with the redirections after it. -/
def grouped (last line : Nat) (apart : Bool) (body : Command) (tokens : List Lexeme) :
    Except Fault (Command × List Lexeme) := do
  let (rs, rest) ← redirects last tokens.length tokens
  .ok (if rs.isEmpty ∧ ¬ apart then body else .group line apart body rs, rest)

/-- The words of a loop up to the end of its line. -/
def loopWords : List Lexeme → List Word × List Lexeme
  | ⟨.word w, _⟩ :: rest =>
    let (words, rest) := loopWords rest
    (w :: words, rest)
  | tokens => ([], tokens)

/-- The tokens after one mark that ends a command. -/
def skipSemicolon : List Lexeme → List Lexeme
  | ⟨.mark ";", _⟩ :: rest => rest
  | tokens => tokens

mutual

/-- Commands joined by `&&` and `||`. -/
def andOr (last : Nat) : (steps : Nat) → List Lexeme → Except Fault (Command × List Lexeme)
  | 0, tokens => .error (unexpected tokens last none)
  | steps + 1, tokens => do
    let (first, rest) ← pipeline last steps tokens
    andOrAfter last steps first rest

/-- What follows the first of commands joined by `&&` and `||`. -/
def andOrAfter (last : Nat) :
    (steps : Nat) → Command → List Lexeme → Except Fault (Command × List Lexeme)
  | 0, first, tokens => .ok (first, tokens)
  | steps + 1, first, tokens =>
    match tokens with
    | ⟨.mark "&&", _⟩ :: rest => do
      let (second, rest) ← pipeline last steps (skipNewlines rest)
      andOrAfter last steps (.both first second) rest
    | ⟨.mark "||", _⟩ :: rest => do
      let (second, rest) ← pipeline last steps (skipNewlines rest)
      andOrAfter last steps (.either first second) rest
    | _ => .ok (first, tokens)

/-- Commands joined by pipes, or the negation of such. -/
def pipeline (last : Nat) : (steps : Nat) → List Lexeme → Except Fault (Command × List Lexeme)
  | 0, tokens => .error (unexpected tokens last none)
  | steps + 1, tokens =>
    match tokens with
    | lexeme :: rest =>
      if reserved? lexeme.token = some "!" then do
        let (body, rest) ← pipeline last steps rest
        .ok (.negated body, rest)
      else do
        let (first, rest) ← command last steps tokens
        match rest with
        | ⟨.mark "|", _⟩ :: rest =>
          let (second, rest) ← pipeline last steps (skipNewlines rest)
          .ok (.pipe first second, rest)
        | _ => .ok (first, rest)
    | [] => .error (unexpected tokens last none)

/-- One command. -/
def command (last : Nat) : (steps : Nat) → List Lexeme → Except Fault (Command × List Lexeme)
  | 0, tokens => .error (unexpected tokens last none)
  | steps + 1, tokens =>
    match tokens with
    | [] => .error (unexpected tokens last none)
    | ⟨.mark "(", line⟩ :: rest => do
      let (body, rest) ← commands last steps rest
      match rest with
      | ⟨.mark ")", _⟩ :: rest => grouped last line true body rest
      | _ => .error (unexpected rest last (some ")"))
    | ⟨token, line⟩ :: rest =>
      match reserved? token with
      | none => simple last line {} (tokens.length + 1) tokens
      | some word => do
        let (body, rest) ←
          match word with
          | "\x7b" => enclosed last steps rest
          | "if" => branches last steps rest
          | "while" => loopAfter last steps true rest
          | "until" => loopAfter last steps false rest
          | "for" => forAfter last steps rest
          | _ => .error (unexpected tokens last none)
        grouped last line false body rest

/-- What follows an opening brace. -/
def enclosed (last : Nat) : (steps : Nat) → List Lexeme → Except Fault (Command × List Lexeme)
  | 0, tokens => .error (unexpected tokens last none)
  | steps + 1, tokens => do
    let (body, rest) ← commands last steps tokens
    let rest ← expect "\x7d" last rest
    .ok (body, rest)

/-- What follows `if` or `elif`. -/
def branches (last : Nat) : (steps : Nat) → List Lexeme → Except Fault (Command × List Lexeme)
  | 0, tokens => .error (unexpected tokens last none)
  | steps + 1, tokens => do
    let (condition, rest) ← commands last steps tokens
    let rest ← expect "then" last rest
    let (yes, rest) ← commands last steps rest
    match rest with
    | [] => .error (unexpected rest last (some "fi"))
    | lexeme :: after =>
      match reserved? lexeme.token with
      | some "elif" => do
        let (no, rest) ← branches last steps after
        .ok (.branch condition yes no, rest)
      | some "else" => do
        let (no, rest) ← commands last steps after
        let rest ← expect "fi" last rest
        .ok (.branch condition yes no, rest)
      | _ => do
        let rest ← expect "fi" last rest
        .ok (.branch condition yes .empty, rest)

/-- What follows `while` or `until`. -/
def loopAfter (last : Nat) :
    (steps : Nat) → Bool → List Lexeme → Except Fault (Command × List Lexeme)
  | 0, _, tokens => .error (unexpected tokens last none)
  | steps + 1, sense, tokens => do
    let (condition, rest) ← commands last steps tokens
    let rest ← expect "do" last rest
    let (body, rest) ← commands last steps rest
    let rest ← expect "done" last rest
    .ok (.loop sense condition body, rest)

/-- What follows `for`. -/
def forAfter (last : Nat) : (steps : Nat) → List Lexeme → Except Fault (Command × List Lexeme)
  | 0, tokens => .error (unexpected tokens last none)
  | steps + 1, tokens =>
    match tokens with
    | ⟨.word w, line⟩ :: rest =>
      match plainText? w with
      | none => .error ⟨line, "Syntax error: Bad for loop variable"⟩
      | some name => do
        let (words, rest) :=
          match skipNewlines rest with
          | ⟨.word inWord, _⟩ :: others =>
            if plainText? inWord = some ['i', 'n'] then
              let (words, after) := loopWords others
              (some words, after)
            else (none, rest)
          | _ => (none, rest)
        let rest ← expect "do" last (skipNewlines (skipSemicolon rest))
        let (body, rest) ← commands last steps rest
        let rest ← expect "done" last rest
        .ok (.forEach name words body, rest)
    | _ => .error (unexpected tokens last none)

/-- Commands up to a reserved word or a parenthesis that ends them. -/
def commands (last : Nat) : (steps : Nat) → List Lexeme → Except Fault (Command × List Lexeme)
  | 0, tokens => .error (unexpected tokens last none)
  | steps + 1, tokens => do
    let (first, rest) ← andOr last steps (skipNewlines tokens)
    let (first, rest, more) :=
      match rest with
      | ⟨.mark ";", _⟩ :: rest => (first, rest, true)
      | ⟨.mark "&", _⟩ :: rest => (.background first, rest, true)
      | ⟨.newline, _⟩ :: rest => (first, rest, true)
      | _ => (first, rest, false)
    if !more then .ok (first, rest)
    else
      let rest := skipNewlines rest
      let ends :=
        match rest with
        | [] => true
        | ⟨.mark ")", _⟩ :: _ => true
        | lexeme :: _ =>
          ["then", "else", "elif", "fi", "do", "done", "\x7d"].any fun word =>
            reserved? lexeme.token = some word
      if ends then .ok (first, rest)
      else do
        let (second, rest) ← commands last steps rest
        .ok (.sequence first second, rest)

end

/-- The commands of one line, and the tokens after it. -/
def lineFrom (last : Nat) : (steps : Nat) → List Lexeme → Except Fault (Command × List Lexeme)
  | 0, tokens => .error (unexpected tokens last none)
  | steps + 1, tokens => do
    let (first, rest) ← andOr last (8 * tokens.length + 8) tokens
    match rest with
    | [] => .ok (first, [])
    | ⟨.newline, _⟩ :: rest => .ok (first, rest)
    | ⟨.mark text, _⟩ :: after =>
      if text = ";" ∨ text = "&" then
        let first := if text = "&" then .background first else first
        match after with
        | [] => .ok (first, [])
        | ⟨.newline, _⟩ :: rest => .ok (first, rest)
        | _ => do
          let (second, rest) ← lineFrom last steps after
          .ok (.sequence first second, rest)
      else .error (unexpected rest last none)
    | _ => .error (unexpected rest last none)

/-- The commands of the next line that has any, and the tokens after it; none at the end. -/
def line? (last : Nat) (tokens : List Lexeme) : Option (Except Fault (Command × List Lexeme)) :=
  match skipNewlines tokens with
  | [] => none
  | tokens => some (lineFrom last (tokens.length + 1) tokens)

end Scripting

end CommandShell

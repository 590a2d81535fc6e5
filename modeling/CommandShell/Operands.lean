import CommandShell.Text.Blank

namespace CommandShell

/-!
# Operands — reading the arguments of a command

Commands take operands and no options but the request for usage, `--help` or `help`. A word `--`
ends the options: after it every word is an operand.

* `Signature` — what a command is called, what it does and what operands it takes;
* `Signature.read` — the operands of a list of arguments, a request for usage, or what is wrong;
* `Signature.usage` — the text that explains the command.
-/

/-- The operands that a command takes. -/
inductive OperandForm where
  /-- At most one, with its name and what it is for. -/
  | optional (name help : String)
  /-- Any number, of no consequence; the first one ends the options. -/
  | ignored
deriving DecidableEq, Repr

/-- What a command is called and takes. -/
structure Signature where
  /-- The name of the command. -/
  name : String
  /-- What the command does. -/
  description : String
  /-- The operands it takes. -/
  form : OperandForm
deriving DecidableEq, Repr

/-- What a list of arguments comes to. -/
inductive Reading where
  /-- The operands of a command to be run. -/
  | accepted (operands : List String)
  /-- A request for usage. -/
  | usage
  /-- Arguments that the command does not take, and what is said about them. -/
  | rejected (message : String)
deriving DecidableEq, Repr

namespace Signature

/-- What is said about an argument that is not known. -/
def unrecognized (word : String) : String := "Unrecognized argument: " ++ word ++ "\n"

/-- What is said about an option after a request for usage. -/
def trailing : String := "Trailing arguments are not allowed after `help`."

/-- Whether a word asks for usage. -/
def isUsageRequest (word : String) : Bool := word = "--help" || word = "help"

/-- Reads further arguments: `asked` tells whether usage was asked for, `ended` whether options
    were ended, and `operands` are those taken so far. -/
def readFrom (form : OperandForm) (asked ended : Bool) (operands : List String) :
    List String → Reading
  | [] => if asked then .usage else .accepted operands
  | word :: rest =>
    if !ended && isUsageRequest word then readFrom form true ended operands rest
    else if !ended && word = "--" then readFrom form asked true operands rest
    else if !ended && word.toList.head? == some '-' then
      .rejected (if asked then trailing else unrecognized word)
    else match form with
      | .ignored => readFrom form asked true (operands ++ [word]) rest
      | .optional .. =>
        if operands.isEmpty then readFrom form asked ended [word] rest
        else .rejected (unrecognized word)

/-- Reads the arguments of a command. -/
def read (s : Signature) (arguments : List String) : Reading :=
  readFrom s.form false false [] arguments

/-- The column at which explanations begin. -/
def indent : Nat := 20

/-- The column that no line goes beyond. -/
def width : Nat := 80

/-- Puts words on lines: a word that would go beyond the width begins a new line. -/
def wrapOnto (lines : String) (line : String) : List String → String
  | [] => lines ++ line ++ "\n"
  | word :: rest =>
    if line.length + 1 + word.length > width then
      wrapOnto (lines ++ line ++ "\n") ("".pushn ' ' indent ++ word) rest
    else wrapOnto lines (line ++ " " ++ word) rest

/-- An entry of a list of explanations. -/
def explain (name help : String) : String :=
  let label := "  " ++ name
  match help.splitOn " " with
  | [] => label ++ "\n"
  | first :: rest => wrapOnto "" (label.pushn ' ' (indent - label.length) ++ first) rest

/-- The text that explains a command. -/
def usage (s : Signature) : String :=
  let options := "\nOptions:\n" ++ explain "--help, help" "display usage information"
  match s.form with
  | .optional name help =>
    "Usage: " ++ s.name ++ " [--] [<" ++ name ++ ">]\n\n" ++ s.description ++
      "\n\nPositional Arguments:\n" ++ explain name help ++ options
  | .ignored =>
    "Usage: " ++ s.name ++ " [args...]\n\n" ++ s.description ++ "\n" ++ options

end Signature

end CommandShell

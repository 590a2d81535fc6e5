import CommandShell.Host

namespace CommandShell

/-!
# Failure — why a command line fails

* `Trace` — a message and what was being done when it arose;
* `Failure` — the causes, with `Failure.isFatal` and `Failure.message`;
* `CommandError` — what a command reports: a cause and contexts added on the way;
* `CommandError.classify` — the failure that a report stands for.
-/

/-- A message, and the contexts it arose in. -/
structure Trace where
  /-- What was being done, the outermost first. -/
  contexts : List String
  /-- The message itself. -/
  origin : String
deriving DecidableEq, Repr

/-- The text of a trace: the contexts from the outermost on, then the message. -/
def Trace.message (t : Trace) : String := ": ".intercalate (t.contexts ++ [t.origin])

/-- Why a command line, or the shell as a whole, fails. -/
inductive Failure where
  /-- The path of the shell's own program is not known. -/
  | executablePath (cause : IoError)
  /-- The file with the commands cannot be opened. -/
  | batchFile (path : Path) (cause : IoError)
  /-- The file in place of standard input cannot be opened. -/
  | redirectInput (path : Path) (cause : IoError)
  /-- The file in place of standard output cannot be opened. -/
  | redirectOutput (path : Path) (cause : IoError)
  /-- An operator has no file after it. -/
  | missingTarget (operator : String)
  /-- No process can be made for a program. -/
  | spawn (program : String) (cause : IoError)
  /-- A program cannot be loaded. -/
  | launch (program : String) (cause : IoError)
  /-- A built-in command failed. -/
  | builtin (report : Trace)
  /-- No line can be read. -/
  | lineReader (cause : IoError)
  /-- The commands cannot be read on. -/
  | io (cause : IoError)
deriving DecidableEq, Repr

namespace Failure

/-- Whether the failure ends the session and not just the command line. -/
def isFatal : Failure → Bool
  | .executablePath _ => true
  | .batchFile _ _ => true
  | .redirectInput _ _ => true
  | .redirectOutput _ _ => true
  | .missingTarget _ => false
  | .spawn _ _ => true
  | .launch _ _ => false
  | .builtin _ => false
  | .lineReader _ => true
  | .io _ => false

/-- The text shown for the failure. -/
def message : Failure → String
  | .executablePath cause => "readlink to get full path of shell failed: " ++ cause.message
  | .batchFile path cause =>
    "Failed to open batch file: " ++ path.display ++ ": " ++ cause.message
  | .redirectInput path cause =>
    "Failed to open input file: " ++ path.display ++ ": " ++ cause.message
  | .redirectOutput path cause =>
    "Failed to open output file: " ++ path.display ++ ": " ++ cause.message
  | .missingTarget operator =>
    "syntax error: expected a file name after '" ++ operator ++ "'"
  | .spawn program cause => "fork failed: " ++ program ++ ": " ++ cause.message
  | .launch program cause => program ++ ": " ++ cause.message
  | .builtin report => report.message
  | .lineReader cause => "line editor failed: " ++ cause.message
  | .io cause => "IO error: " ++ cause.message

end Failure

/-- What a command's report starts from. -/
inductive Cause where
  /-- A failure that is already known as such. -/
  | failure (failure : Failure)
  /-- A request to the system that failed. -/
  | io (error : IoError)
  /-- A message. -/
  | message (text : String)
deriving DecidableEq, Repr

/-- What a command reports when it fails. -/
structure CommandError where
  /-- What it starts from. -/
  cause : Cause
  /-- The contexts added on the way, the outermost first. -/
  contexts : List String := []
deriving DecidableEq, Repr

namespace CommandError

/-- A report with one more context around it. -/
def within (e : CommandError) (context : String) : CommandError :=
  { e with contexts := context :: e.contexts }

/-- The report of a failed request to the system. -/
def ofIo (error : IoError) : CommandError := { cause := .io error }

/-- The report of a failure that is already known as such. -/
def ofFailure (failure : Failure) : CommandError := { cause := .failure failure }

/-- The failure a report stands for: one that is already known keeps what it is, whatever contexts
    were added; anything else is the failure of a built-in command. -/
def classify (e : CommandError) : Failure :=
  match e.cause with
  | .failure failure => failure
  | .io error => .builtin ⟨e.contexts, error.message⟩
  | .message text => .builtin ⟨e.contexts, text⟩

end CommandError

end CommandShell

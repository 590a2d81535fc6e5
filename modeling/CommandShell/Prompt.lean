import CommandShell.Path

namespace CommandShell

/-!
# Prompt — what is shown before a line is read

* `Prompt.shownDirectory` — a directory as the prompt shows it: from the home directory on, if it
  is there or below;
* `Prompt.render` — the prompt: who, where, and a dollar sign.
-/

namespace Prompt

/-- The directory as it is shown: a tilde stands for the home directory. -/
def shownDirectory (home : Option Path) (directory : Path) : String :=
  match home.bind directory.stripPrefix? with
  | none => directory.display
  | some rest => if rest.bytes.isEmpty then "~" else "~/" ++ rest.display

/-- The prompt. -/
def render (user : Option String) (home : Option Path) (directory : Path) : String :=
  user.getD "" ++ "@" ++ shownDirectory home directory ++ "$ "

end Prompt

end CommandShell

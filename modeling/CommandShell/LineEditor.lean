import CommandShell.Text.Grapheme
import CommandShell.Text.Utf8

namespace CommandShell

/-!
# LineEditor — from what was typed to the line that was meant

* `LineEditor.dropEnding` — a line without the newline at its end, and without the carriage return
  before that;
* `LineEditor.applyErasures` — a line after its backspaces: each takes the cluster before it away;
* `LineEditor.edit` — both.
-/

namespace LineEditor

/-- The character that takes away what was typed before it. -/
def backspace : Char := '\x08'

/-- The line without the newline at its end, and without a carriage return before that. -/
def dropEnding (typed : List Char) : List Char :=
  match typed.reverse with
  | '\n' :: '\r' :: rest => rest.reverse
  | '\n' :: rest => rest.reverse
  | _ => typed

/-- What was typed so far. -/
structure Draft where
  /-- The characters that stand, the last one first. -/
  standing : List Char
  /-- How many bytes each cluster has, the last one first. The number is kept in one byte. -/
  sizes : List UInt8

/-- The characters without the first ones, as many as take the given number of bytes. -/
def dropBytes : (count : Nat) → List Char → List Char
  | _, [] => []
  | count, c :: rest =>
    if c.utf8Size ≤ count then dropBytes (count - c.utf8Size) rest else c :: rest

/-- How many bytes a cluster has. -/
def sizeOf (cluster : List Char) : UInt8 :=
  UInt8.ofNat ((cluster.map Char.utf8Size).foldl (· + ·) 0)

/-- Types one more cluster; a backspace takes the last one away. -/
def Draft.type (draft : Draft) (cluster : List Char) : Draft :=
  if cluster = [backspace] then
    match draft.sizes with
    | [] => draft
    -- The cluster is taken back by its size.
    | size :: others => ⟨dropBytes size.toNat draft.standing, others⟩
  else ⟨cluster.reverse ++ draft.standing, sizeOf cluster :: draft.sizes⟩

/-- The line after its backspaces. -/
def applyErasures (line : List Char) : List Char :=
  ((Grapheme.clusters line).foldl Draft.type ⟨[], []⟩).standing.reverse

/-- The line that was meant. A line without backspaces stands as it was typed. -/
def edit (typed : List Char) : List Char :=
  let line := dropEnding typed
  if line.contains backspace then applyErasures line else line

end LineEditor

end CommandShell

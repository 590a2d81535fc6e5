namespace CommandShell

/-!
# Bytes — raw text as the system knows it

File contents, paths, arguments and variables are byte strings: nothing says that they are text.

* `Bytes` — a byte string;
* `Bytes.splitOn` — the pieces between occurrences of one byte;
* `Bytes.lines` — the pieces between newlines, a final newline opening no further piece;
* `Bytes.hasNul` — whether a byte string cannot be handed to the system.
-/

/-- A byte string. -/
abbrev Bytes := List UInt8

namespace Bytes

/-- The byte that ends a line. -/
def newline : UInt8 := 10

/-- The byte that no path, argument or variable may hold. -/
def nul : UInt8 := 0

/-- The byte strings between occurrences of `sep`. There is always at least one. -/
def splitOn (sep : UInt8) (bs : Bytes) : List Bytes :=
  bs.foldr (fun b pieces => if b = sep then [] :: pieces else
    match pieces with
    | [] => [[b]]
    | piece :: rest => (b :: piece) :: rest) [[]]

/-- The lines of a byte string: the pieces between newlines, where nothing follows a final
    newline and the empty byte string has no line at all. -/
def lines (bs : Bytes) : List Bytes :=
  let pieces := splitOn newline bs
  if pieces.getLast? = some [] then pieces.dropLast else pieces

/-- The byte strings of a list with `sep` between neighbours. -/
def joinWith (sep : UInt8) (pieces : List Bytes) : Bytes :=
  [sep].intercalate pieces

/-- Whether the byte string holds a NUL byte. -/
def hasNul (bs : Bytes) : Bool := bs.contains nul

end Bytes

end CommandShell

import CommandShell.Text.Utf8

namespace CommandShell

/-!
# Tools.Quoting — names in messages

Names are shown in a way that could be typed to a command interpreter.

* `Quoting.ifNeeded` — a name as it is, or quoted if that is needed to type it;
* `Quoting.always` — a name in quotes;
* `Quoting.plain` — a text in quotes that nobody is to type.

Only ASCII characters are shown as they are; other bytes are written by number.
-/

namespace Quoting

/-- The character of a byte. -/
def char (b : UInt8) : Char := Char.ofNat b.toNat

/-- Whether the byte is a character that can be shown. -/
def isPrintable (b : UInt8) : Bool := 32 ≤ b && b ≤ 126

/-- Three digits in base eight. -/
def octal (b : UInt8) : String :=
  let n := b.toNat
  String.ofList [Nat.digitChar (n / 64), Nat.digitChar (n / 8 % 8), Nat.digitChar (n % 8)]

/-- A byte that is not shown as it is, written by name or number. -/
def escape (b : UInt8) : String :=
  match b with
  | 7 => "\\a"
  | 8 => "\\b"
  | 9 => "\\t"
  | 10 => "\\n"
  | 11 => "\\v"
  | 12 => "\\f"
  | 13 => "\\r"
  | b => "\\" ++ octal b

/-- The characters that need quotes wherever they stand. -/
def special : List Char :=
  [' ', '!', '"', '$', '&', '\'', '(', ')', '*', ';', '<', '=', '>', '?', '[', '\\', '^', '\x60',
    '|']

/-- Whether a name has to be quoted to be typed. -/
def needsQuotes (name : Bytes) : Bool :=
  match name with
  | [] => true
  | [b] =>
    !isPrintable b || special.contains (char b) ||
      ['#', '~', '\x7b', '\x7d'].contains (char b)
  | first :: _ =>
    ['#', '~'].contains (char first) ||
      name.any fun b => !isPrintable b || special.contains (char b)

/-- The inside of a quoted name; `named` tells whether the last byte was written by name or number,
    between quotes of another kind. -/
def inside (named : Bool) : Bytes → String
  | [] => "'"
  | b :: rest =>
    if isPrintable b then
      (if named then "''" else "") ++
        (if char b = '\'' then "'\\''" else String.singleton (char b)) ++ inside false rest
    else (if named then "" else "'$'") ++ escape b ++ inside true rest

/-- Whether double quotes do for a name that holds a single one. -/
def fitsDoubleQuotes (name : Bytes) : Bool :=
  name.contains 39 && name.all fun b =>
    isPrintable b && ((char b).isAlphanum ||
      ['\'', ' ', '%', '+', ',', '-', '.', '/', ':', ']', '_', '@'].contains (char b))

/-- A name in quotes. -/
def always (name : Bytes) : String :=
  if fitsDoubleQuotes name then "\"" ++ String.ofList (name.map char) ++ "\""
  else "'" ++ inside false name

/-- A name as it is, or in quotes if that is needed to type it. -/
def ifNeeded (name : Bytes) : String :=
  if needsQuotes name then always name else String.ofList (name.map char)

/-- A text in quotes that nobody is to type. -/
def plain (text : Bytes) : String :=
  let shown (b : UInt8) : String :=
    if !isPrintable b then escape b
    else if char b = '\'' ∨ char b = '\\' then "\\" ++ String.singleton (char b)
    else String.singleton (char b)
  "'" ++ String.join (text.map shown) ++ "'"

end Quoting

end CommandShell

namespace CommandShell

/-!
# Blank — the characters that show nothing but space

* `isBlank` — the characters with the property White_Space;
* `trimBlankEnd` — a text without such characters at its end.
-/

/-- Whether the character is white space, whatever the script. -/
def isBlank (c : Char) : Bool :=
  let n := c.toNat
  (0x09 ≤ n && n ≤ 0x0D) || n = 0x20 || n = 0x85 || n = 0xA0 || n = 0x1680 ||
    (0x2000 ≤ n && n ≤ 0x200A) || n = 0x2028 || n = 0x2029 || n = 0x202F || n = 0x205F ||
    n = 0x3000

/-- The text without white space at its end. -/
def trimBlankEnd (text : String) : String :=
  String.ofList (text.toList.reverse.dropWhile isBlank).reverse

end CommandShell

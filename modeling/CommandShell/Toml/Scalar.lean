import CommandShell.Toml.Table

namespace CommandShell

/-!
# Toml.Scalar — numbers, truth values, dates and times

A scalar that is no string is a run of characters up to a blank or a mark of punctuation.

* `Toml.integer?` — the integers, in four bases, as far as they fit 64 bits;
* `Toml.isFloat` — the other numbers, as far as they are not too large for double precision;
* `Toml.isDate`, `Toml.isTime`, `Toml.isMoment` — dates and times;
* `Toml.scalar?` — all of them.
-/

namespace Toml

/-- Whether the characters are nothing but digits and single underscores between digits. -/
def isDigits (isDigit : Char → Bool) : List Char → Bool
  | [] => false
  | [c] => isDigit c
  | c :: '_' :: rest => isDigit c && isDigits isDigit rest
  | c :: rest => isDigit c && isDigits isDigit rest

/-- The value of one digit in bases up to sixteen. -/
def digitValue (c : Char) : Nat :=
  if c.isDigit then c.toNat - 48 else if c.isUpper then c.toNat - 55 else c.toNat - 87

/-- The number that digits stand for, underscores left out. -/
def digitsValue (base : Nat) (digits : List Char) : Nat :=
  (digits.filter (· ≠ '_')).foldl (fun n c => n * base + digitValue c) 0

/-- Whether the characters are a decimal number without needless zeros in front. -/
def isDecimal (cs : List Char) : Bool :=
  isDigits Char.isDigit cs && (cs.head? != some '0' || cs.length == 1)

/-- The sign in front of a number, and what follows it. -/
def takeSign : List Char → Bool × List Char
  | '-' :: rest => (true, rest)
  | '+' :: rest => (false, rest)
  | cs => (false, cs)

/-- Whether the character is a digit in base sixteen. -/
def isHexDigit (c : Char) : Bool := c.isDigit || ('a' ≤ c && c ≤ 'f') || ('A' ≤ c && c ≤ 'F')

/-- Whether the character is a digit in base eight. -/
def isOctalDigit (c : Char) : Bool := '0' ≤ c && c ≤ '7'

/-- Whether the character is a digit in base two. -/
def isBinaryDigit (c : Char) : Bool := c = '0' || c = '1'

/-- The magnitude of the least integer; every other integer is below it in magnitude. -/
def integerBound : Nat := 9223372036854775808

/-- An integer that is not negative, from its digits in a base. -/
def natural? (base : Nat) (isDigit : Char → Bool) (cs : List Char) : Option Int :=
  let n := digitsValue base cs
  if isDigits isDigit cs ∧ n < integerBound then some n else none

/-- The integer that the characters stand for. -/
def integer? (cs : List Char) : Option Int :=
  match cs with
  | '0' :: 'x' :: rest => natural? 16 isHexDigit rest
  | '0' :: 'o' :: rest => natural? 8 isOctalDigit rest
  | '0' :: 'b' :: rest => natural? 2 isBinaryDigit rest
  | _ =>
    let (negative, digits) := takeSign cs
    let n := digitsValue 10 digits
    if !isDecimal digits then none
    else if negative then if n ≤ integerBound then some (-(n : Int)) else none
    else if n < integerBound then some n else none

/-- The least number that is rounded to infinity. -/
def overflowBound : Nat := Nat.pow 2 1024 - Nat.pow 2 970

/-- How many decimal digits that number has. -/
def overflowDigits : Nat := 309

/-- Whether `digits` times ten to the power `exponent` is rounded to infinity. -/
def overflows (digits : Nat) (exponent : Int) : Bool :=
  let size := (toString digits).length
  if digits = 0 then false
  else if exponent + size > overflowDigits then true
  else if exponent + size < overflowDigits then false
  else if exponent ≥ 0 then digits * Nat.pow 10 exponent.toNat ≥ overflowBound
  else digits ≥ overflowBound * Nat.pow 10 (-exponent).toNat

/-- Whether the character begins an exponent. -/
def isExponentMark (c : Char) : Bool := c = 'e' || c = 'E'

/-- The exponent of a number: zero if there is none; no value if it is not written as one. -/
def exponent? : List Char → Option Int
  | [] => some 0
  | _ :: rest =>
    let (negative, digits) := takeSign rest
    let n := digitsValue 10 digits
    if isDigits Char.isDigit digits then some (if negative then -(n : Int) else n) else none

/-- Whether the characters are a number that is no integer. A positive one must not be too large;
    a negative one may. -/
def isFloat (cs : List Char) : Bool :=
  let (negative, unsigned) := takeSign cs
  if unsigned = ['i', 'n', 'f'] ∨ unsigned = ['n', 'a', 'n'] then true
  else
    let mantissa := unsigned.takeWhile (!isExponentMark ·)
    let whole := mantissa.takeWhile (· ≠ '.')
    let point := mantissa.drop whole.length
    let fraction := point.drop 1
    match exponent? (unsigned.drop mantissa.length) with
    | none => false
    | some exponent =>
      (mantissa.length < unsigned.length || !point.isEmpty) && isDecimal whole &&
        (point.isEmpty || isDigits Char.isDigit fraction) &&
        -- The value itself is of no use here; only whether it is a number is.
        (negative || !overflows (digitsValue 10 (whole ++ fraction))
          (exponent - (fraction.filter (· ≠ '_')).length))

/-- The number of exactly so many digits. -/
def fixed? (count : Nat) (cs : List Char) : Option Nat :=
  if cs.length = count ∧ cs.all Char.isDigit then some (digitsValue 10 cs) else none

/-- Whether exactly so many digits stand for a number within bounds. -/
def isWithin (count low high : Nat) (cs : List Char) : Bool :=
  match fixed? count cs with
  | some n => low ≤ n && n ≤ high
  | none => false

/-- How many days a month has. -/
def daysIn (year month : Nat) : Nat :=
  if month = 2 then
    if year % 4 = 0 ∧ (year % 100 ≠ 0 ∨ year % 400 = 0) then 29 else 28
  else if [4, 6, 9, 11].contains month then 30
  else 31

/-- Whether the characters are a date: year, month and day. -/
def isDate (cs : List Char) : Bool :=
  match fixed? 4 (cs.take 4), fixed? 2 ((cs.drop 5).take 2) with
  | some year, some month =>
    cs[4]? == some '-' && cs[7]? == some '-' && 1 ≤ month && month ≤ 12 &&
      isWithin 2 1 (daysIn year month) (cs.drop 8)
  | _, _ => false

/-- Whether the characters are an hour and a minute. -/
def isClock (cs : List Char) : Bool :=
  isWithin 2 0 23 (cs.take 2) && cs[2]? == some ':' && isWithin 2 0 59 (cs.drop 3)

/-- Whether the characters are a time: hour, minute and second, with any number of decimals. -/
def isTime (cs : List Char) : Bool :=
  isClock (cs.take 5) && cs[5]? == some ':' && isWithin 2 0 60 ((cs.drop 6).take 2) &&
    match cs.drop 8 with
    | [] => true
    | '.' :: decimals => !decimals.isEmpty && decimals.all Char.isDigit
    | _ => false

/-- Whether the characters are a distance from universal time. -/
def isOffset : List Char → Bool
  | ['Z'] => true
  | ['z'] => true
  | '+' :: rest => isClock rest
  | '-' :: rest => isClock rest
  | _ => false

/-- Whether the character begins a distance from universal time. -/
def isOffsetMark (c : Char) : Bool := c = 'Z' || c = 'z' || c = '+' || c = '-'

/-- Whether the characters are a time, perhaps with a distance from universal time. -/
def isZonedTime (cs : List Char) : Bool :=
  let time := cs.takeWhile (!isOffsetMark ·)
  isTime time && (time.length == cs.length || isOffset (cs.drop time.length))

/-- Whether the character stands between a date and a time. -/
def isDateEnd (c : Char) : Bool := c = 'T' || c = 't' || c = ' '

/-- Whether the characters are a date, a time or both. -/
def isMoment (cs : List Char) : Bool :=
  isTime cs || isDate cs ||
    (isDate (cs.take 10) && (cs.drop 10).head?.any isDateEnd && isZonedTime (cs.drop 11))

/-- The scalar that the characters are. -/
def scalar? (cs : List Char) : Option Node :=
  if cs = ['t', 'r', 'u', 'e'] then some (.boolean true)
  else if cs = ['f', 'a', 'l', 's', 'e'] then some (.boolean false)
  else if isMoment cs then some (.moment (String.ofList cs))
  else match integer? cs with
    | some n => some (.integer n)
    | none => if isFloat cs then some (.float (String.ofList cs)) else none

end Toml

end CommandShell

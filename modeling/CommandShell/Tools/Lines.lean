import CommandShell.Tools.Files

namespace CommandShell

/-!
# Tools.Lines — programs that rearrange text

* `Tools.sort` — the lines of files in order;
* `Tools.tr` — characters replaced or left out.
-/

namespace Tools

/-- How lines are compared. -/
structure SortOrder where
  /-- By the numbers at their front. -/
  numeric : Bool
  /-- The greatest first. -/
  reverse : Bool
  /-- Of equal lines only the first. -/
  unique : Bool

/-- A number with decimals, as it is compared: its sign, its whole part and its decimals. -/
def leadingNumber (line : Bytes) : Bool × Nat × Bytes :=
  let line := line.dropWhile fun b => b = 32 || b = 9
  let (negative, line) :=
    match line with
    | 45 :: rest => (true, rest)
    | _ => (false, line)
  let isDigit (b : UInt8) := 48 ≤ b && b ≤ 57
  let whole := line.takeWhile isDigit
  let decimals :=
    match line.drop whole.length with
    | 46 :: rest => rest.takeWhile isDigit
    | _ => []
  (negative, (natural? whole).getD 0, (decimals.reverse.dropWhile (· = 48)).reverse)

/-- The order of two magnitudes. -/
def compareMagnitudes (a b : Nat × Bytes) : Ordering :=
  if a.1 < b.1 then .lt
  else if b.1 < a.1 then .gt
  else if a.2 < b.2 then .lt
  else if b.2 < a.2 then .gt
  else .eq

/-- The order of the numbers at the front of two lines. -/
def compareNumbers (x y : Bytes) : Ordering :=
  let (xNegative, xMagnitude) := leadingNumber x
  let (yNegative, yMagnitude) := leadingNumber y
  let xZero := xMagnitude = (0, [])
  let yZero := yMagnitude = (0, [])
  if xZero ∧ yZero then .eq
  else if xZero then (if yNegative then .gt else .lt)
  else if yZero then (if xNegative then .lt else .gt)
  else match xNegative, yNegative with
    | false, false => compareMagnitudes xMagnitude yMagnitude
    | true, true => compareMagnitudes yMagnitude xMagnitude
    | true, false => .lt
    | false, true => .gt

/-- The order of two lines by their bytes. -/
def compareBytes (x y : Bytes) : Ordering := if x < y then .lt else if y < x then .gt else .eq

/-- The order of two lines as far as it makes them different. -/
def SortOrder.compare (order : SortOrder) (x y : Bytes) : Ordering :=
  let plain := if order.numeric then compareNumbers x y else compareBytes x y
  if order.reverse then plain.swap else plain

/-- Whether a line may stand before another. Lines that are not different for the order are
    compared by their bytes. -/
def SortOrder.allows (order : SortOrder) (x y : Bytes) : Bool :=
  match order.compare x y with
  | .lt => true
  | .gt => false
  | .eq =>
    if order.unique then true
    else if order.reverse then compareBytes x y != .lt
    else compareBytes x y != .gt

/-- The lines without those that are not different from the one kept last. -/
def dropRepeated (order : SortOrder) : List Bytes → List Bytes
  | x :: y :: rest =>
    if order.compare x y = .eq then dropRepeated order (x :: rest)
    else x :: dropRepeated order (y :: rest)
  | lines => lines
termination_by lines => lines.length

/-- The lines of files in order. Nothing is read unless all files are there. -/
def sort : Tool := fun t arguments =>
  let (options, operands) := splitArguments arguments
  let letters : List UInt8 := (options.map (·.drop 1)).flatten
  let known : List UInt8 := [110, 114, 117]
  match options.find? fun option => (option.drop 1).any fun b => !known.contains b with
  | some option => refuseOption t option 2
  | none =>
    let order : SortOrder :=
      { numeric := letters.contains 110
        reverse := letters.contains 114
        unique := letters.contains 117 }
    let operands := if operands.isEmpty then [inputName] else operands
    -- Every file is looked at before the first is read.
    let missing := operands.findSome? fun operand =>
      if operand = inputName then none
      else match t.openFile ⟨operand⟩ with
        | .ok _ => none
        | .error reason => some (operand, reason)
    let start : Except (Bytes × Errno) (List Bytes) :=
      match missing with
      | some trouble => .error trouble
      | none => .ok []
    let step (state : Task × Except (Bytes × Errno) (List Bytes)) (operand : Bytes) :=
      let (t, lines) := state
      match lines with
      | .error _ => state
      | .ok lines =>
        match readOperand t operand with
        | (.error reason, t) => (t, .error (operand, reason))
        | (.ok content, t) => (t, .ok (lines ++ Bytes.lines content))
    match operands.foldl step (t, start) with
    | (t, .error (operand, reason)) =>
      let verb := if reason = .isDirectory then "read failed: " else "cannot read: "
      (t.warn (verb ++ Quoting.ifNeeded operand ++ ": " ++ reason.description)).finish 2
    | (t, .ok lines) =>
      let sorted := lines.mergeSort order.allows
      let kept := if order.unique then dropRepeated order sorted else sorted
      let t := t.print (kept.flatMap (· ++ [Bytes.newline]))
      match t.trouble with
      | none => t.finish 0
      | some reason =>
        ((t.warn ("fflush failed: 'standard output': " ++ reason.description)).warn
          "write error").finish 2

/-- The bytes from one to another. -/
def range (first last : UInt8) : List UInt8 :=
  (List.range (last.toNat + 1 - first.toNat)).map fun i => first + UInt8.ofNat i

/-- The bytes of a class of characters. -/
def classNamed? (name : String) : Option (List UInt8) :=
  match name with
  | "lower" => some (range 97 122)
  | "upper" => some (range 65 90)
  | "digit" => some (range 48 57)
  | "alpha" => some (range 65 90 ++ range 97 122)
  | "alnum" => some (range 48 57 ++ range 65 90 ++ range 97 122)
  | "blank" => some [9, 32]
  | "space" => some (range 9 13 ++ [32])
  | _ => none

/-- The class of characters at the front of a set, and how many bytes its name takes. -/
def classAt? (set : Bytes) : Option (List UInt8 × Nat) :=
  match set with
  | 91 :: 58 :: rest =>
    let name := rest.takeWhile (· ≠ 58)
    if (rest.drop name.length).take 2 = [58, 93] then
      (classNamed? (Bytes.toStringLossy name)).map (·, name.length + 4)
    else none
  | _ => none

/-- The bytes that a set describes: single ones, escaped ones, ranges and classes. -/
def bytesOf : (steps : Nat) → Bytes → List UInt8
  | 0, _ => []
  | steps + 1, set =>
    match classAt? set with
    | some (bytes, taken) => bytes ++ bytesOf steps (set.drop taken)
    | none =>
      match set with
      | 92 :: 110 :: rest => 10 :: bytesOf steps rest
      | 92 :: 116 :: rest => 9 :: bytesOf steps rest
      | 92 :: 114 :: rest => 13 :: bytesOf steps rest
      | 92 :: b :: rest => b :: bytesOf steps rest
      | first :: 45 :: last :: rest => range first last ++ bytesOf steps rest
      | b :: rest => b :: bytesOf steps rest
      | [] => []

/-- The bytes that a set describes. -/
def setOf (set : Bytes) : List UInt8 := bytesOf set.length set

/-- The byte that stands for another: the one at its last place in the second set, where the last
    one stands for all further ones. -/
def translate (old new : List UInt8) (b : UInt8) : UInt8 :=
  match old.reverse.idxOf? b with
  | none => b
  | some i => (new[old.length - 1 - i]?.or new.getLast?).getD b

/-- Characters of the input replaced or left out. -/
def tr : Tool := fun t arguments =>
  let (options, operands) := splitArguments arguments
  match options, operands with
  | [], [old, new] =>
    match t.readInput with
    | (.error reason, t) =>
      (t.warn ("read error: " ++ reason.description)).finish 1
    | (.ok content, t) => (t.print (content.map (translate (setOf old) (setOf new)))).close 0
  | [[45, 100]], [old] =>
    match t.readInput with
    | (.error reason, t) =>
      (t.warn ("read error: " ++ reason.description)).finish 1
    | (.ok content, t) => (t.print (content.filter (!(setOf old).contains ·))).close 0
  | [[45, 100]], _ :: extra :: _ =>
    t.refuse ("extra operand " ++ Quoting.plain extra ++
      "\nOnly one string may be given when deleting without squeezing repeats.")
  | [[45, 100]], [] => t.refuse "missing operand"
  | [], [] => t.refuse "missing operand"
  | [], [old] =>
    t.refuse ("missing operand after " ++ Quoting.plain old ++
      "\nTwo strings must be given when translating.")
  | [], _ :: _ :: extra :: _ => t.refuse ("extra operand " ++ Quoting.plain extra)
  | option :: _, _ => refuseOption t option

end Tools

end CommandShell

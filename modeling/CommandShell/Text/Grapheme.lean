import CommandShell.Text.Grapheme.Table

namespace CommandShell

/-!
# Grapheme — characters as a reader sees them

A reader takes a letter and its marks, a flag or a family of pictographs for one character. The
extended grapheme clusters of Unicode say so: a text is cut between two characters unless a rule
keeps them together.

* `Grapheme.Class` — what the rules ask of a character;
* `Grapheme.State` — what they remember of the characters before;
* `Grapheme.State.keeps` — whether a character stays with those before it;
* `Grapheme.clusters` — the clusters of a text; together they are the text.
-/

namespace Grapheme

/-- What the rules ask of a character. -/
inductive Class where
  /-- Carriage return. -/
  | carriageReturn
  /-- Line feed. -/
  | lineFeed
  /-- Another control character. -/
  | control
  /-- Extends the character before it. -/
  | extender
  /-- Joins pictographs. -/
  | joiner
  /-- Half of a flag. -/
  | regional
  /-- Belongs to the character after it. -/
  | prepended
  /-- Belongs to the character before it. -/
  | spacingMark
  /-- A leading part of a Hangul syllable. -/
  | leading
  /-- A vowel of a Hangul syllable. -/
  | vowel
  /-- A trailing part of a Hangul syllable. -/
  | trailing
  /-- A Hangul syllable that may take a vowel or a trailing part. -/
  | openSyllable
  /-- A Hangul syllable that may take a trailing part only. -/
  | closedSyllable
  /-- A pictograph. -/
  | pictograph
  /-- Any other character. -/
  | other
deriving DecidableEq, Repr

namespace Class

/-- The class of a Hangul syllable: each vowel has one syllable without a trailing part, and 27
    with one. -/
def ofSyllable (c : Char) : Class :=
  if (c.toNat - 0xAC00) % 28 = 0 then .openSyllable else .closedSyllable

/-- The class of a character that is not ASCII. -/
def ofWide (c : Char) : Class :=
  if c.toNat = 0x200D then .joiner
  else if within controls c then .control
  else if within extenders c then .extender
  else if within spacingMarks c then .spacingMark
  else if within prependers c then .prepended
  else if within pictographs c then .pictograph
  else if within [(0x1F1E6, 0x1F1FF)] c then .regional
  else if within [(0x1100, 0x115F), (0xA960, 0xA97C)] c then .leading
  else if within [(0x1160, 0x11A7), (0xD7B0, 0xD7C6)] c then .vowel
  else if within [(0x11A8, 0x11FF), (0xD7CB, 0xD7FB)] c then .trailing
  else if within [(0xAC00, 0xD7A3)] c then ofSyllable c
  else .other

/-- The class of a character. -/
def ofChar (c : Char) : Class :=
  if c = '\r' then .carriageReturn
  else if c = '\n' then .lineFeed
  else if c.toNat < 0x20 ∨ c.toNat = 0x7F then .control
  else if c.toNat < 0x80 then .other
  else ofWide c

/-- Whether the character stands apart from its neighbours. -/
def isControl : Class → Bool
  | .carriageReturn => true
  | .lineFeed => true
  | .control => true
  | _ => false

/-- Whether a Hangul part or syllable goes on with another. -/
def continues : Class → Class → Bool
  | .leading, .leading => true
  | .leading, .vowel => true
  | .leading, .openSyllable => true
  | .leading, .closedSyllable => true
  | .openSyllable, .vowel => true
  | .openSyllable, .trailing => true
  | .vowel, .vowel => true
  | .vowel, .trailing => true
  | .closedSyllable, .trailing => true
  | .trailing, .trailing => true
  | _, _ => false

end Class

/-- How far a pictograph that may be joined has come. -/
inductive Picture where
  /-- There is none. -/
  | none
  /-- A pictograph, perhaps extended. -/
  | seen
  /-- One with a joiner at its end. -/
  | joined
deriving DecidableEq, Repr

/-- How far consonants that may be joined have come. -/
inductive Conjunct where
  /-- There are none. -/
  | none
  /-- A consonant, perhaps extended. -/
  | seen
  /-- One with a linker after it. -/
  | linked
deriving DecidableEq, Repr

/-- What the rules remember of the characters before. -/
structure State where
  /-- The class of the last character. -/
  last : Class
  /-- Whether that is the first half of a flag. -/
  halfFlag : Bool
  /-- The pictograph it ends. -/
  picture : Picture
  /-- The consonants it ends. -/
  conjunct : Conjunct
deriving DecidableEq, Repr

namespace State

/-- The pictograph after one more character. -/
def nextPicture (before : Picture) : Class → Picture
  | .pictograph => .seen
  | .extender => if before = .seen then .seen else .none
  | .joiner => if before = .seen then .joined else .none
  | _ => .none

/-- The character that keeps letters apart which would otherwise be joined. -/
def nonJoiner : Char := '\u200C'

/-- The consonants after one more character. -/
def nextConjunct (before : Conjunct) (c : Char) : Class → Conjunct
  | .extender =>
    if c = nonJoiner then .none
    else if before ≠ .none ∧ within conjunctLinkers c then .linked
    else before
  | .joiner => before
  | _ => if within conjunctConsonants c then .seen else .none

/-- What is remembered of a character that begins a text. -/
def first (c : Char) : State :=
  let kind := Class.ofChar c
  { last := kind
    halfFlag := kind = .regional
    picture := nextPicture .none kind
    conjunct := nextConjunct .none c kind }

/-- What is remembered after one more character. -/
def next (s : State) (c : Char) : State :=
  let kind := Class.ofChar c
  { last := kind
    halfFlag := kind = .regional && !s.halfFlag
    picture := nextPicture s.picture kind
    conjunct := nextConjunct s.conjunct c kind }

/-- Whether a character stays with those before it. -/
def keeps (s : State) (c : Char) : Bool :=
  match s.last, Class.ofChar c with
  | .carriageReturn, .lineFeed => true
  | before, kind =>
    -- Control characters stand alone; the parts of a Hangul syllable, marks, and what is prepended
    -- do not.
    if before.isControl || kind.isControl then false
    else if before.continues kind then true
    else if kind = .extender || kind = .joiner || kind = .spacingMark then true
    else if before = .prepended then true
    -- Linked consonants, joined pictographs and the second half of a flag stay as well.
    else if s.conjunct = .linked && within conjunctConsonants c then true
    else if s.picture = .joined && kind = .pictograph then true
    else s.halfFlag && kind = .regional

end State

/-- A text on the way of being cut: the clusters that are complete, the last one first, and the
    characters of the one that is not, the last one first. -/
structure Cutting where
  /-- What is remembered of the characters before. -/
  state : State
  /-- The cluster that is not complete. -/
  current : List Char
  /-- The clusters that are. -/
  complete : List (List Char)

/-- Takes one more character. -/
def Cutting.take (cut : Cutting) (c : Char) : Cutting :=
  if cut.state.keeps c then
    { cut with state := cut.state.next c, current := c :: cut.current }
  else
    { state := cut.state.next c
      current := [c]
      complete := cut.current.reverse :: cut.complete }

/-- The clusters of a text. -/
def clusters : List Char → List (List Char)
  | [] => []
  | c :: rest =>
    let cut := rest.foldl Cutting.take ⟨.first c, [c], []⟩
    (cut.current.reverse :: cut.complete).reverse

end Grapheme

end CommandShell

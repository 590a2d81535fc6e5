import CommandShell.Bytes

namespace CommandShell

/-!
# UTF-8 — between characters and bytes

A byte string is read as a sequence of pieces: a piece is a character, or a maximal byte string
that begins a character but does not go on as one (or cannot begin one at all).

* `Utf8.encode` — the bytes of a list of characters;
* `Utf8.piece` — the first piece of a nonempty byte string, and what follows it;
* `Utf8.pieces` — all pieces; `Utf8.pieces_cons` says that it reads one piece after the other;
* `Utf8.decode?` — the characters, if every piece is one;
* `Utf8.decodeLossy` — the characters with U+FFFD for every piece that is none.
-/

namespace Utf8

/-- The character shown in place of bytes that are no character. -/
def replacement : Char := '\uFFFD'

/-- The bytes of the characters, one after the other. -/
def encode (cs : List Char) : Bytes := cs.flatMap String.utf8EncodeChar

/-- What the first byte of a character of several bytes announces. -/
structure Lead where
  /-- How many bytes follow. -/
  extra : Nat
  /-- The least the second byte may be. -/
  low : UInt8
  /-- The greatest the second byte may be. -/
  high : UInt8
  /-- The bits of the character that the first byte carries. -/
  bits : Nat

/-- The announcement of a first byte; none for a byte that begins no character of several bytes.
    The bounds on the second byte rule out overlong forms, surrogates and too large characters. -/
def Lead.ofByte? (b : UInt8) : Option Lead :=
  if b < 0xC2 then none
  else if b ≤ 0xDF then some ⟨1, 0x80, 0xBF, b.toNat - 0xC0⟩
  else if b = 0xE0 then some ⟨2, 0xA0, 0xBF, 0⟩
  else if b = 0xED then some ⟨2, 0x80, 0x9F, 13⟩
  else if b ≤ 0xEF then some ⟨2, 0x80, 0xBF, b.toNat - 0xE0⟩
  else if b = 0xF0 then some ⟨3, 0x90, 0xBF, 0⟩
  else if b ≤ 0xF3 then some ⟨3, 0x80, 0xBF, b.toNat - 0xF0⟩
  else if b = 0xF4 then some ⟨3, 0x80, 0x8F, 4⟩
  else none

/-- Reads `extra` further bytes of a character whose bits so far are `bits`, the first of them
    between `low` and `high`. The piece ends before the first byte that does not fit. -/
def continuation : (extra : Nat) → (low high : UInt8) → (bits : Nat) → Bytes → Option Char × Bytes
  | 0, _, _, bits, rest => (some (Char.ofNat bits), rest)
  | _ + 1, _, _, _, [] => (none, [])
  | extra + 1, low, high, bits, b :: rest =>
    if low ≤ b ∧ b ≤ high then
      continuation extra 0x80 0xBF (bits * 64 + (b.toNat - 0x80)) rest
    -- `b` does not go on with this character, but it may begin the next piece.
    else (none, b :: rest)

/-- The first piece of `b :: rest`, and the bytes after it. -/
def piece (b : UInt8) (rest : Bytes) : Option Char × Bytes :=
  if b < 0x80 then (some (Char.ofNat b.toNat), rest)
  else match Lead.ofByte? b with
    | none => (none, rest)
    | some lead => continuation lead.extra lead.low lead.high lead.bits rest

theorem length_continuation_le (extra : Nat) (low high : UInt8) (bits : Nat) (bs : Bytes) :
    (continuation extra low high bits bs).2.length ≤ bs.length := by
  induction extra generalizing low high bits bs with
  | zero => simp [continuation]
  | succ n ih =>
    cases bs with
    | nil => simp [continuation]
    | cons b rest =>
      simp only [continuation]
      split
      · exact Nat.le_succ_of_le (ih ..)
      · exact Nat.le_refl _

theorem length_piece_le (b : UInt8) (rest : Bytes) : (piece b rest).2.length ≤ rest.length := by
  unfold piece
  split
  · exact Nat.le_refl _
  · split
    · exact Nat.le_refl _
    · exact length_continuation_le ..

/-- The pieces of a byte string, before them those of `done` in reverse. -/
def piecesOnto (done : List (Option Char)) : Bytes → List (Option Char)
  | [] => done.reverse
  | b :: rest => piecesOnto ((piece b rest).1 :: done) (piece b rest).2
termination_by bs => bs.length
decreasing_by exact Nat.lt_succ_of_le (length_piece_le ..)

/-- The pieces of a byte string in order: characters, and none for what is no character. -/
def pieces (bs : Bytes) : List (Option Char) := piecesOnto [] bs

theorem piecesOnto_cons (done : List (Option Char)) (b : UInt8) (rest : Bytes) :
    piecesOnto done (b :: rest) = piecesOnto ((piece b rest).1 :: done) (piece b rest).2 := by
  rw [piecesOnto]

theorem piecesOnto_eq (done : List (Option Char)) (bs : Bytes) :
    piecesOnto done bs = done.reverse ++ pieces bs := by
  match bs with
  | [] => simp [pieces, piecesOnto]
  | b :: rest =>
    have shorter := length_piece_le b rest
    unfold pieces
    rw [piecesOnto_cons, piecesOnto_cons, piecesOnto_eq (_ :: done), piecesOnto_eq [_]]
    simp
termination_by bs.length

@[simp] theorem pieces_nil : pieces [] = [] := by simp [pieces, piecesOnto]

theorem pieces_cons (b : UInt8) (rest : Bytes) :
    pieces (b :: rest) = (piece b rest).1 :: pieces (piece b rest).2 := by
  rw [pieces, piecesOnto, piecesOnto_eq]
  simp

/-- The characters of a byte string that is UTF-8 throughout. -/
def decode? (bs : Bytes) : Option (List Char) := (pieces bs).mapM id

/-- The characters of a byte string, U+FFFD standing for each piece that is none. -/
def decodeLossy (bs : Bytes) : List Char := (pieces bs).map (·.getD replacement)

end Utf8

namespace Bytes

/-- The bytes of a text. -/
def ofString (s : String) : Bytes := Utf8.encode s.toList

/-- The text, if the bytes are UTF-8. -/
def toString? (bs : Bytes) : Option String := (Utf8.decode? bs).map String.ofList

/-- The text, with U+FFFD for what is not UTF-8. -/
def toStringLossy (bs : Bytes) : String := String.ofList (Utf8.decodeLossy bs)

end Bytes

end CommandShell

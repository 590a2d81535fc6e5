import CommandShell.Proofs.EncodedTexts

namespace CommandShell

/-!
# LossyReading — what is read where bytes are no text

Bytes are read from left to right: as a character where the bytes of one stand, and elsewhere as a
replacement for the longest run that begins a character without being one, or for a single byte that
begins none:

* `Utf8.Broken` — such a run, or byte, and what stands after it;
* `Utf8.Reads` — reading, by these rules;
* `Utf8.piece_none` — a piece that is no character is broken;
* `Utf8.Broken.piece_eq` — and the broken bytes at the start are a piece;
* `Utf8.reads_iff` — hence the rules read what `Utf8.decodeLossy` does.
-/

namespace Utf8

variable {b : UInt8} {c : Char} {cs : List Char} {bs rest left bad : Bytes}

/-! ### The rules -/

/-- Bytes that one replacement stands for, and the bytes after them. -/
structure Broken (bad rest : Bytes) : Prop where
  /-- There is a byte at least. -/
  ne_nil : bad ≠ []
  /-- No character stands there. -/
  no_character : ∀ c, ¬ String.utf8EncodeChar c <+: bad ++ rest
  /-- They begin a character, unless it is one byte that does not. -/
  begins : bad.length = 1 ∨ ∃ c, bad <+: String.utf8EncodeChar c
  /-- With the next byte they begin none. -/
  maximal : ∀ next back, rest = next :: back → ∀ c, ¬ bad ++ [next] <+: String.utf8EncodeChar c

/-- What bytes are read as, characters and replacements. -/
inductive Reads : Bytes → List Char → Prop
  /-- Nothing is left. -/
  | nil : Reads [] []
  /-- A character stands there. -/
  | character {rest : Bytes} {cs : List Char} (c : Char) : Reads rest cs →
      Reads (String.utf8EncodeChar c ++ rest) (c :: cs)
  /-- None does. -/
  | broken {bad rest : Bytes} {cs : List Char} : Broken bad rest → Reads rest cs →
      Reads (bad ++ rest) (replacement :: cs)

/-! ### Bytes that go on and bytes that do not -/

/-- A character that was begun can be completed. -/
theorem exists_continuation (extra : Nat) {low high : UInt8} (h : low ≤ high) (bits : Nat) :
    ∃ bs c, continuation extra low high bits bs = (some c, []) := by
  induction extra generalizing low high bits with
  | zero => exact ⟨[], _, rfl⟩
  | succ extra ih =>
    -- The bytes after the next one may be any that go on with a character.
    have hany : (0x80 : UInt8) ≤ 0xBF := by decide
    obtain ⟨bs, c, hbs⟩ := ih hany (bits * 64 + (low.toNat - 0x80))
    refine ⟨low :: bs, c, ?_⟩
    rw [continuation, if_pos ⟨UInt8.le_refl low, h⟩, hbs]

/-- Where a character is not completed, some bytes go on with it and might have completed it, and
    the byte after them, if there is one, does not go on with it whatever comes then. -/
theorem continuation_none {extra : Nat} {low high : UInt8} {bits : Nat} (h : low ≤ high)
    (hnone : continuation extra low high bits bs = (none, left)) :
    ∃ taken, bs = taken ++ left ∧
      (∃ more c, continuation extra low high bits (taken ++ more) = (some c, [])) ∧
      ∀ next back, left = next :: back → ∀ after,
        (continuation extra low high bits (taken ++ next :: after)).1 = none := by
  induction extra generalizing low high bits bs with
  | zero => cases hnone
  | succ extra ih =>
    obtain ⟨more, c, hmore⟩ := exists_continuation (extra + 1) h bits
    cases bs with
    | nil =>
      -- The bytes have come to their end.
      cases hnone
      exact ⟨[], rfl, ⟨more, c, hmore⟩, fun next back hleft => by cases hleft⟩
    | cons first bs =>
      rw [continuation] at hnone
      split_ifs at hnone with hfits
      · obtain ⟨taken, rfl, ⟨more, c, hmore⟩, hnext⟩ := ih (by decide) hnone
        refine ⟨first :: taken, rfl, ⟨more, c, ?_⟩, fun next back hleft after => ?_⟩
        · rw [List.cons_append, continuation, if_pos hfits, hmore]
        · rw [List.cons_append, continuation, if_pos hfits]
          exact hnext next back hleft after
      · -- This byte does not go on with the character.
        cases hnone
        refine ⟨[], rfl, ⟨more, c, hmore⟩, fun next back hleft after => ?_⟩
        obtain ⟨rfl, -⟩ := List.cons.inj hleft
        rw [List.nil_append, continuation, if_neg hfits]

/-- The second byte of a character has a range. -/
theorem Lead.low_le_high {lead : Lead} (h : Lead.ofByte? b = some lead) : lead.low ≤ lead.high := by
  unfold Lead.ofByte? at h
  split_ifs at h <;> cases h <;> dsimp only <;> decide

/-! ### Pieces that are no characters -/

/-- Where the bytes of a character stand, it is read. -/
theorem piece_of_prefix (h : String.utf8EncodeChar c <+: b :: rest) : (piece b rest).1 = some c := by
  obtain ⟨back, hback⟩ := h
  obtain ⟨first, others, hbytes, hpiece⟩ := piece_encode c back
  rw [hbytes, List.cons_append] at hback
  obtain ⟨rfl, rfl⟩ := List.cons.inj hback
  rw [hpiece]

/-- What a piece that is no character takes, and what would have made it one. -/
theorem piece_none_taken (h : piece b rest = (none, left)) :
    ∃ taken, rest = taken ++ left ∧
      (taken = [] ∨ ∃ more c, piece b (taken ++ more) = (some c, [])) ∧
      ∀ next back, left = next :: back → ∀ after, (piece b (taken ++ next :: after)).1 = none := by
  have hascii : ¬ b < 0x80 := by
    intro hascii
    rw [piece, if_pos hascii] at h
    cases h
  rcases hlead : Lead.ofByte? b with _ | lead
  · -- No character begins with this byte.
    have hpiece : ∀ rest, piece b rest = (none, rest) := fun rest => by
      rw [piece, if_neg hascii, hlead]
    rw [hpiece] at h
    obtain rfl := (Prod.mk.inj h).2
    exact ⟨[], rfl, .inl rfl, fun _ _ _ after => by rw [hpiece]⟩
  · have hpiece : ∀ rest,
        piece b rest = continuation lead.extra lead.low lead.high lead.bits rest := fun rest => by
      rw [piece, if_neg hascii, hlead]
    simp only [hpiece] at h ⊢
    obtain ⟨taken, hrest, hmore, hnext⟩ := continuation_none (Lead.low_le_high hlead) h
    exact ⟨taken, hrest, .inr hmore, hnext⟩

/-- **A piece that is no character** is broken, and no more than that is taken for it. -/
theorem piece_none (h : piece b rest = (none, left)) :
    ∃ taken, rest = taken ++ left ∧ Broken (b :: taken) left := by
  obtain ⟨taken, rfl, hmore, hnext⟩ := piece_none_taken h
  refine ⟨taken, rfl, by simp, fun c hc => ?_, ?_, fun next back hleft c hc => ?_⟩
  · have hread : (piece b (taken ++ left)).1 = some c := piece_of_prefix hc
    rw [h] at hread
    cases hread
  · rcases hmore with rfl | ⟨more, c, hmore⟩
    · exact .inl rfl
    · -- With the bytes that are missing it is the character.
      have hbytes := encode_of_piece hmore
      rw [List.append_nil] at hbytes
      exact .inr ⟨c, ⟨more, by rw [List.cons_append, hbytes]⟩⟩
  · -- A character that went on like this would be read.
    obtain ⟨after, hafter⟩ := hc
    have hwhole : String.utf8EncodeChar c <+: b :: (taken ++ next :: after) := by
      rw [← hafter]
      simp
    have hread := piece_of_prefix hwhole
    rw [hnext next back hleft after] at hread
    cases hread

/-- Of two broken runs at one place, the one that begins the other is all of it. -/
theorem Broken.eq_of_prefix {bad' rest' : Bytes} (h : Broken bad rest) (h' : Broken bad' rest')
    (hsame : bad ++ rest = bad' ++ rest') (hle : bad <+: bad') : bad = bad' := by
  obtain ⟨more, rfl⟩ := hle
  rcases more with _ | ⟨next, more⟩
  · rw [List.append_nil]
  · rw [List.append_assoc, List.append_cancel_left_eq] at hsame
    rcases h'.begins with hone | ⟨c, hc⟩
    · have hlength := List.length_pos_iff.2 h.ne_nil
      simp only [List.length_append, List.length_cons] at hone
      omega
    · -- The longer run would begin a character with the next byte.
      refine absurd (List.IsPrefix.trans ⟨more, ?_⟩ hc) (h.maximal next _ hsame c)
      rw [List.append_assoc, List.singleton_append]

/-- **Broken bytes** are a piece. -/
theorem Broken.piece_eq (h : Broken (b :: bs) rest) : piece b (bs ++ rest) = (none, rest) := by
  rcases hpiece : piece b (bs ++ rest) with ⟨_ | c, left⟩
  · obtain ⟨taken, hsplit, hbroken⟩ := piece_none hpiece
    have hsame : b :: bs ++ rest = b :: taken ++ left := congrArg (b :: ·) hsplit
    have heq : b :: bs = b :: taken := by
      rcases List.prefix_or_prefix_of_prefix ⟨rest, rfl⟩ ⟨left, hsame.symm⟩ with hle | hle
      · exact h.eq_of_prefix hbroken hsame hle
      · exact (hbroken.eq_of_prefix h hsame.symm hle).symm
    rw [← heq, List.append_cancel_left_eq] at hsame
    rw [hsame]
  · exact absurd ⟨left, (encode_of_piece hpiece).symm⟩ (h.no_character c)

/-! ### Reading -/

@[simp] theorem decodeLossy_nil : decodeLossy [] = [] := by simp [decodeLossy]

theorem decodeLossy_cons (b : UInt8) (rest : Bytes) :
    decodeLossy (b :: rest)
      = (piece b rest).1.getD replacement :: decodeLossy (piece b rest).2 := by
  rw [decodeLossy, pieces_cons, List.map_cons, ← decodeLossy]

/-- Bytes are read by the rules. -/
theorem reads_decodeLossy (bs : Bytes) : Reads bs (decodeLossy bs) := by
  -- Piece by piece: each is a character, or is broken.
  match bs with
  | [] => simpa using Reads.nil
  | b :: rest =>
    have shorter := length_piece_le b rest
    have hrest := reads_decodeLossy (piece b rest).2
    rw [decodeLossy_cons]
    rcases hpiece : piece b rest with ⟨_ | c, left⟩
    · rw [hpiece] at hrest
      obtain ⟨taken, rfl, hbroken⟩ := piece_none hpiece
      exact .broken hbroken hrest
    · rw [hpiece] at hrest
      rw [encode_of_piece hpiece]
      exact .character c hrest
termination_by bs.length

/-- **Reading.** The rules leave no choice of what bytes are read as. -/
theorem reads_iff : Reads bs cs ↔ decodeLossy bs = cs := by
  constructor
  · intro h
    induction h with
    | nil => exact decodeLossy_nil
    | @character rest cs c _ ih =>
      obtain ⟨b, bs, hbytes, hpiece⟩ := piece_encode c rest
      rw [hbytes, List.cons_append, decodeLossy_cons, hpiece, ih]
      rfl
    | @broken bad rest cs hbroken _ ih =>
      obtain ⟨b, bs, rfl⟩ := List.exists_cons_of_ne_nil hbroken.ne_nil
      rw [List.cons_append, decodeLossy_cons, hbroken.piece_eq, ih]
      rfl
  · rintro rfl
    exact reads_decodeLossy bs

end Utf8

end CommandShell

import CommandShell.Proofs.TextLines

namespace CommandShell

/-!
# EncodedTexts — texts and their bytes

The bytes of a text are read as that text, and no other bytes are:

* `Utf8.piece_encode` — the bytes of a character are read as that character;
* `Utf8.encode_of_piece` — and what is read as a character are its bytes;
* `Utf8.decode?_eq_some_iff_encode` — so bytes are read as characters exactly if they are those of
  the characters;
* `Bytes.toString?_eq_some_iff`, `Bytes.toStringLossy_ofString` — the same of texts.
-/

namespace Utf8

variable {n v : Nat} {b : UInt8} {c : Char} {cs : List Char} {bs rest : Bytes}

/-! ### Bytes as numbers -/

theorem toNat_ofNat_of_lt (h : n < 256) : (UInt8.ofNat n).toNat = n := by
  rw [UInt8.toNat_ofNat', Nat.mod_eq_of_lt h]

/-- What a first byte announces is a matter of its number. -/
theorem Lead.ofByte?_ofNat (h : n < 256) : Lead.ofByte? (UInt8.ofNat n) =
    if n < 0xC2 then none
    else if n ≤ 0xDF then some ⟨1, 0x80, 0xBF, n - 0xC0⟩
    else if n = 0xE0 then some ⟨2, 0xA0, 0xBF, 0⟩
    else if n = 0xED then some ⟨2, 0x80, 0x9F, 13⟩
    else if n ≤ 0xEF then some ⟨2, 0x80, 0xBF, n - 0xE0⟩
    else if n = 0xF0 then some ⟨3, 0x90, 0xBF, 0⟩
    else if n ≤ 0xF3 then some ⟨3, 0x80, 0xBF, n - 0xF0⟩
    else if n = 0xF4 then some ⟨3, 0x80, 0x8F, 4⟩
    else none := by
  unfold Lead.ofByte?
  simp only [UInt8.lt_iff_toNat_lt, UInt8.le_iff_toNat_le, ← UInt8.toNat_inj, toNat_ofNat_of_lt h,
    UInt8.reduceToNat]

theorem piece_of_lead {extra bits : Nat} {low high : UInt8} (h : n < 256) (hn : 0x80 ≤ n)
    (hlead : Lead.ofByte? (UInt8.ofNat n) = some ⟨extra, low, high, bits⟩) (rest : Bytes) :
    piece (UInt8.ofNat n) rest = continuation extra low high bits rest := by
  have hmany : ¬ UInt8.ofNat n < 0x80 := by
    rw [UInt8.lt_iff_toNat_lt, toNat_ofNat_of_lt h]
    exact Nat.not_lt.2 hn
  rw [piece, if_neg hmany, hlead]

theorem continuation_ofNat (extra : Nat) {low high : UInt8} (hlow : low.toNat ≤ n)
    (hhigh : n ≤ high.toNat) (bits : Nat) (rest : Bytes) :
    continuation (extra + 1) low high bits (UInt8.ofNat n :: rest)
      = continuation extra 0x80 0xBF (bits * 64 + (n - 0x80)) rest := by
  have hn : n < 256 := Nat.lt_of_le_of_lt hhigh (UInt8.toNat_lt high)
  rw [continuation, if_pos, toNat_ofNat_of_lt hn]
  rw [UInt8.le_iff_toNat_le, UInt8.le_iff_toNat_le, toNat_ofNat_of_lt hn]
  exact ⟨hlow, hhigh⟩

/-! ### The bytes of a character -/

theorem continuation_one {low high : UInt8} {bits : Nat} (hlow : low.toNat ≤ v % 64 + 128)
    (hhigh : v % 64 + 128 ≤ high.toNat) (hv : v / 64 = bits) (rest : Bytes) :
    continuation 1 low high bits (UInt8.ofNat (v % 64 + 128) :: rest)
      = (some (Char.ofNat v), rest) := by
  have hbits : bits * 64 + (v % 64 + 128 - 0x80) = v := by omega
  rw [continuation_ofNat 0 hlow hhigh, hbits]
  rfl

theorem continuation_two {low high : UInt8} {bits : Nat} (hlow : low.toNat ≤ v / 64 % 64 + 128)
    (hhigh : v / 64 % 64 + 128 ≤ high.toNat) (hv : v / 4096 = bits) (rest : Bytes) :
    continuation 2 low high bits
        (UInt8.ofNat (v / 64 % 64 + 128) :: UInt8.ofNat (v % 64 + 128) :: rest)
      = (some (Char.ofNat v), rest) := by
  rw [continuation_ofNat 1 hlow hhigh]
  exact continuation_one (by simp) (by simp; omega) (by omega) rest

theorem continuation_three {low high : UInt8} {bits : Nat}
    (hlow : low.toNat ≤ v / 4096 % 64 + 128) (hhigh : v / 4096 % 64 + 128 ≤ high.toNat)
    (hv : v / 262144 = bits) (rest : Bytes) :
    continuation 3 low high bits
        (UInt8.ofNat (v / 4096 % 64 + 128) :: UInt8.ofNat (v / 64 % 64 + 128) ::
          UInt8.ofNat (v % 64 + 128) :: rest)
      = (some (Char.ofNat v), rest) := by
  rw [continuation_ofNat 2 hlow hhigh]
  exact continuation_two (by simp) (by simp; omega) (by omega) rest

theorem piece_two (hlow : 0x80 ≤ v) (hhigh : v < 0x800) (rest : Bytes) :
    piece (UInt8.ofNat (v / 64 % 32 + 192)) (UInt8.ofNat (v % 64 + 128) :: rest)
      = (some (Char.ofNat v), rest) := by
  have hlead := Lead.ofByte?_ofNat (show v / 64 % 32 + 192 < 256 by omega)
  rw [if_neg (by omega), if_pos (by omega)] at hlead
  rw [piece_of_lead (by omega) (by omega) hlead]
  exact continuation_one (by simp) (by simp; omega) (by omega) rest

theorem piece_three (hlow : 0x800 ≤ v) (hhigh : v < 0x10000)
    (hvalid : v < 0xD800 ∨ 0xDFFF < v) (rest : Bytes) :
    piece (UInt8.ofNat (v / 4096 % 16 + 224))
        (UInt8.ofNat (v / 64 % 64 + 128) :: UInt8.ofNat (v % 64 + 128) :: rest)
      = (some (Char.ofNat v), rest) := by
  have hlead := Lead.ofByte?_ofNat (show v / 4096 % 16 + 224 < 256 by omega)
  rw [if_neg (by omega), if_neg (by omega)] at hlead
  by_cases hfirst : v / 4096 = 0
  · -- Bytes that would spell a smaller number at too great a length are left out.
    rw [if_pos (by omega)] at hlead
    rw [piece_of_lead (by omega) (by omega) hlead]
    exact continuation_two (by simp; omega) (by simp; omega) hfirst rest
  by_cases hsurrogate : v / 4096 = 13
  · -- So are the numbers that are those of no character.
    rw [if_neg (by omega), if_pos (by omega)] at hlead
    rw [piece_of_lead (by omega) (by omega) hlead]
    exact continuation_two (by simp) (by simp; omega) hsurrogate rest
  rw [if_neg (by omega), if_neg (by omega), if_pos (by omega)] at hlead
  rw [piece_of_lead (by omega) (by omega) hlead]
  exact continuation_two (by simp) (by simp; omega) (by omega) rest

theorem piece_four (hlow : 0x10000 ≤ v) (hhigh : v < 0x110000) (rest : Bytes) :
    piece (UInt8.ofNat (v / 262144 % 8 + 240))
        (UInt8.ofNat (v / 4096 % 64 + 128) :: UInt8.ofNat (v / 64 % 64 + 128) ::
          UInt8.ofNat (v % 64 + 128) :: rest)
      = (some (Char.ofNat v), rest) := by
  have hlead := Lead.ofByte?_ofNat (show v / 262144 % 8 + 240 < 256 by omega)
  rw [if_neg (by omega), if_neg (by omega), if_neg (by omega), if_neg (by omega),
    if_neg (by omega)] at hlead
  by_cases hfirst : v / 262144 = 0
  · rw [if_pos (by omega)] at hlead
    rw [piece_of_lead (by omega) (by omega) hlead]
    exact continuation_three (by simp; omega) (by simp; omega) hfirst rest
  by_cases hlast : v / 262144 = 4
  · rw [if_neg (by omega), if_neg (by omega), if_pos (by omega)] at hlead
    rw [piece_of_lead (by omega) (by omega) hlead]
    exact continuation_three (by simp) (by simp; omega) hlast rest
  rw [if_neg (by omega), if_pos (by omega)] at hlead
  rw [piece_of_lead (by omega) (by omega) hlead]
  exact continuation_three (by simp) (by simp; omega) (by omega) rest

/-- **The bytes of a character** are read as that character. -/
theorem piece_encode (c : Char) (rest : Bytes) :
    ∃ b bs, String.utf8EncodeChar c = b :: bs ∧ piece b (bs ++ rest) = (some c, rest) := by
  have hvalid : c.val.toNat < 0xD800 ∨ 0xDFFF < c.val.toNat ∧ c.val.toNat < 0x110000 := c.valid
  have hchar : Char.ofNat c.val.toNat = c := Char.ofNat_toNat c
  unfold String.utf8EncodeChar
  dsimp only
  conv in (some c, rest) => rw [← hchar]
  generalize c.val.toNat = v at *
  split_ifs with hone htwo hthree
  · refine ⟨_, _, rfl, ?_⟩
    rw [List.nil_append, piece, toNat_ofNat_of_lt (by omega), if_pos]
    rw [UInt8.lt_iff_toNat_lt, toNat_ofNat_of_lt (by omega)]
    exact Nat.lt_succ_of_le hone
  · exact ⟨_, _, rfl, piece_two (by omega) (by omega) rest⟩
  · exact ⟨_, _, rfl, piece_three (by omega) (by omega) (by omega) rest⟩
  · exact ⟨_, _, rfl, piece_four (by omega) (by omega) rest⟩

theorem pieces_encode_append (cs : List Char) (rest : Bytes) :
    pieces (encode cs ++ rest) = cs.map some ++ pieces rest := by
  induction cs with
  | nil => rfl
  | cons c cs ih =>
    obtain ⟨b, bs, hbytes, hpiece⟩ := piece_encode c (encode cs ++ rest)
    rw [encode, List.flatMap_cons, ← encode, hbytes, List.cons_append, List.cons_append,
      List.append_assoc, pieces_cons, hpiece, ih, List.map_cons, List.cons_append]

/-! ### The bytes of what is read as a character -/

/-- One more byte of a character. -/
theorem continuation_succ_eq_some {extra bits : Nat} {low high : UInt8}
    (h : continuation (extra + 1) low high bits bs = (some c, rest)) :
    ∃ n bs', bs = UInt8.ofNat n :: bs' ∧ low.toNat ≤ n ∧ n ≤ high.toNat ∧
      continuation extra 0x80 0xBF (bits * 64 + (n - 0x80)) bs' = (some c, rest) := by
  rcases bs with _ | ⟨b, bs⟩
  · cases h
  · rw [continuation] at h
    split_ifs at h with hfits
    · rw [UInt8.le_iff_toNat_le, UInt8.le_iff_toNat_le] at hfits
      exact ⟨b.toNat, bs, by rw [UInt8.ofNat_toNat], hfits.1, hfits.2, h⟩
    · cases h

/-- The bytes of the character of a number. -/
theorem utf8EncodeChar_ofNat (h : v < 0xD800 ∨ 0xDFFF < v ∧ v < 0x110000) :
    String.utf8EncodeChar (Char.ofNat v) =
      if v ≤ 127 then [UInt8.ofNat v]
      else if v ≤ 2047 then [UInt8.ofNat (v / 64 % 32 + 192), UInt8.ofNat (v % 64 + 128)]
      else if v ≤ 65535 then
        [UInt8.ofNat (v / 4096 % 16 + 224), UInt8.ofNat (v / 64 % 64 + 128),
          UInt8.ofNat (v % 64 + 128)]
      else
        [UInt8.ofNat (v / 262144 % 8 + 240), UInt8.ofNat (v / 4096 % 64 + 128),
          UInt8.ofNat (v / 64 % 64 + 128), UInt8.ofNat (v % 64 + 128)] := by
  have hnat : (Char.ofNat v).val.toNat = v := by
    rw [Char.ofNat, dif_pos h]
    rfl
  unfold String.utf8EncodeChar
  simp only [hnat]

theorem encode_of_continuation_one {low high : UInt8} {bits : Nat} (hlow : 0x80 ≤ low.toNat)
    (hhigh : high.toNat ≤ 0xBF) (hbits : 2 ≤ bits) (hbits' : bits < 32)
    (h : continuation 1 low high bits bs = (some c, rest)) :
    UInt8.ofNat (bits + 192) :: bs = String.utf8EncodeChar c ++ rest := by
  obtain ⟨n, bs, rfl, hn, hn', h⟩ := continuation_succ_eq_some h
  obtain ⟨hc, rfl⟩ := Prod.mk.inj h
  obtain rfl := Option.some.inj hc
  rw [utf8EncodeChar_ofNat (by omega), if_neg (by omega), if_pos (by omega)]
  have hfirst : (bits * 64 + (n - 0x80)) / 64 % 32 + 192 = bits + 192 := by omega
  have hsecond : (bits * 64 + (n - 0x80)) % 64 + 128 = n := by omega
  rw [hfirst, hsecond]
  rfl

theorem encode_of_continuation_two {low high : UInt8} {bits : Nat} (hlow : 0x80 ≤ low.toNat)
    (hhigh : high.toNat ≤ 0xBF) (hbits : bits < 16) (hshort : bits = 0 → 0xA0 ≤ low.toNat)
    (hsurrogate : bits = 13 → high.toNat ≤ 0x9F)
    (h : continuation 2 low high bits bs = (some c, rest)) :
    UInt8.ofNat (bits + 224) :: bs = String.utf8EncodeChar c ++ rest := by
  obtain ⟨n, bs, rfl, hn, hn', h⟩ := continuation_succ_eq_some h
  obtain ⟨m, bs, rfl, hm, hm', h⟩ := continuation_succ_eq_some h
  obtain ⟨hc, rfl⟩ := Prod.mk.inj h
  obtain rfl := Option.some.inj hc
  simp only [UInt8.reduceToNat] at hm hm'
  rw [utf8EncodeChar_ofNat (by omega), if_neg (by omega), if_neg (by omega), if_pos (by omega)]
  generalize hv : (bits * 64 + (n - 0x80)) * 64 + (m - 0x80) = v
  have hfirst : v / 4096 % 16 + 224 = bits + 224 := by omega
  have hsecond : v / 64 % 64 + 128 = n := by omega
  have hthird : v % 64 + 128 = m := by omega
  rw [hfirst, hsecond, hthird]
  rfl

theorem encode_of_continuation_three {low high : UInt8} {bits : Nat} (hlow : 0x80 ≤ low.toNat)
    (hhigh : high.toNat ≤ 0xBF) (hbits : bits ≤ 4) (hshort : bits = 0 → 0x90 ≤ low.toNat)
    (hlarge : bits = 4 → high.toNat ≤ 0x8F)
    (h : continuation 3 low high bits bs = (some c, rest)) :
    UInt8.ofNat (bits + 240) :: bs = String.utf8EncodeChar c ++ rest := by
  obtain ⟨n, bs, rfl, hn, hn', h⟩ := continuation_succ_eq_some h
  obtain ⟨m, bs, rfl, hm, hm', h⟩ := continuation_succ_eq_some h
  obtain ⟨k, bs, rfl, hk, hk', h⟩ := continuation_succ_eq_some h
  obtain ⟨hc, rfl⟩ := Prod.mk.inj h
  obtain rfl := Option.some.inj hc
  simp only [UInt8.reduceToNat] at hm hm' hk hk'
  rw [utf8EncodeChar_ofNat (by omega), if_neg (by omega), if_neg (by omega), if_neg (by omega)]
  generalize hv : ((bits * 64 + (n - 0x80)) * 64 + (m - 0x80)) * 64 + (k - 0x80) = v
  have hfirst : v / 262144 % 8 + 240 = bits + 240 := by omega
  have hsecond : v / 4096 % 64 + 128 = n := by omega
  have hthird : v / 64 % 64 + 128 = m := by omega
  have hfourth : v % 64 + 128 = k := by omega
  rw [hfirst, hsecond, hthird, hfourth]
  rfl

/-- **What is read as a character** are its bytes. -/
theorem encode_of_piece (h : piece b bs = (some c, rest)) :
    b :: bs = String.utf8EncodeChar c ++ rest := by
  obtain ⟨n, hn, rfl⟩ : ∃ n < 256, b = UInt8.ofNat n :=
    ⟨b.toNat, UInt8.toNat_lt b, UInt8.ofNat_toNat.symm⟩
  by_cases hone : n < 0x80
  · rw [piece, if_pos (by rwa [UInt8.lt_iff_toNat_lt, toNat_ofNat_of_lt hn])] at h
    obtain ⟨hc, rfl⟩ := Prod.mk.inj h
    obtain rfl := Option.some.inj hc
    rw [toNat_ofNat_of_lt hn, utf8EncodeChar_ofNat (by omega), if_pos (by omega)]
    rfl
  rcases hlead : Lead.ofByte? (UInt8.ofNat n) with _ | ⟨extra, low, high, bits⟩
  · have hmany : ¬ UInt8.ofNat n < 0x80 := by rwa [UInt8.lt_iff_toNat_lt, toNat_ofNat_of_lt hn]
    rw [piece, if_neg hmany, hlead] at h
    cases h
  rw [piece_of_lead hn (by omega) hlead] at h
  rw [Lead.ofByte?_ofNat hn] at hlead
  -- Which bytes may follow depends on the first one, and so does what they are short of.
  split_ifs at hlead with h1 h2 h3 h4 h5 h6 h7 h8 <;> cases hlead
  · have hbits : n = n - 0xC0 + 192 := by omega
    rw [hbits]
    exact encode_of_continuation_one (by simp) (by simp) (by omega) (by omega) h
  · exact h3 ▸ encode_of_continuation_two (by simp) (by simp) (by omega) (by simp) (by simp) h
  · exact h4 ▸ encode_of_continuation_two (by simp) (by simp) (by omega) (by simp) (by simp) h
  · have hbits : n = n - 0xE0 + 224 := by omega
    rw [hbits]
    exact encode_of_continuation_two (by simp) (by simp) (by omega) (by omega) (by omega) h
  · exact h6 ▸ encode_of_continuation_three (by simp) (by simp) (by omega) (by simp) (by simp) h
  · have hbits : n = n - 0xF0 + 240 := by omega
    rw [hbits]
    exact encode_of_continuation_three (by simp) (by simp) (by omega) (by omega) (by omega) h
  · exact h8 ▸ encode_of_continuation_three (by simp) (by simp) (by omega) (by simp) (by simp) h

/-! ### Texts -/

/-- **Bytes are read** as characters exactly if they are those of the characters. -/
theorem decode?_eq_some_iff_encode : decode? bs = some cs ↔ bs = encode cs := by
  rw [decode?_eq_some_iff]
  constructor
  · intro h
    induction cs generalizing bs with
    | nil =>
      rcases bs with _ | ⟨b, bs⟩
      · rfl
      · rw [pieces_cons] at h
        cases h
    | cons c cs ih =>
      rcases bs with _ | ⟨b, bs⟩
      · rw [pieces_nil] at h
        cases h
      · rw [pieces_cons, List.map_cons] at h
        obtain ⟨hfirst, hothers⟩ := List.cons.inj h
        have hrest := ih hothers
        rw [encode_of_piece (Prod.ext hfirst rfl), encode, List.flatMap_cons, ← encode, ← hrest]
  · rintro rfl
    have happend := pieces_encode_append cs []
    rwa [List.append_nil, pieces_nil, List.append_nil] at happend

end Utf8

namespace Bytes

variable {bs : Bytes} {text : String}

/-- Bytes are those of a text exactly if they are read as that text. -/
theorem toString?_eq_some_iff : bs.toString? = some text ↔ bs = ofString text := by
  unfold toString? ofString
  rw [Option.map_eq_some_iff]
  constructor
  · rintro ⟨cs, hcs, rfl⟩
    rw [Utf8.decode?_eq_some_iff_encode.1 hcs, String.toList_ofList]
  · intro h
    exact ⟨text.toList, Utf8.decode?_eq_some_iff_encode.2 h, String.ofList_toList⟩

/-- The bytes of a text are put up with as they are. -/
theorem toStringLossy_ofString (text : String) : (ofString text).toStringLossy = text := by
  have hdecode : Utf8.decode? (ofString text) = some text.toList :=
    Utf8.decode?_eq_some_iff_encode.2 rfl
  rw [Utf8.toStringLossy_of_decode? hdecode, String.ofList_toList]

end Bytes

end CommandShell

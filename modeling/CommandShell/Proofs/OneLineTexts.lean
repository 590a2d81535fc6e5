import CommandShell.Operands
import CommandShell.Session
import CommandShell.Proofs.TextLines

namespace CommandShell

/-!
# OneLineTexts — texts without a newline

A newline is a byte of its own, and no other character has that byte in it. So a text has a newline
exactly if its bytes have one, and bytes without one are shown as a text without one:

* `OneLine` — texts without a newline; `OneLine.append`, `OneLine.intercalate` put them together;
* `Utf8.newline_not_mem_encode`, `Utf8.newline_not_mem_decodeLossy` — the two ways between
  characters and bytes;
* `Bytes.IsLine`, `OneLine.isLine` — one line and its end, in bytes;
* `OneLine.of_isWord`, `OneLine.trimBlankEnd` — words, and texts without their ends;
* `IoError.IsPlain`, `IoError.IsPlain.oneLine` — failed requests that come with no text of their
  own.
-/

/-- The text is on one line. -/
def OneLine (text : String) : Prop := '\n' ∉ text.toList

/-! ### Characters and bytes -/

namespace Utf8

variable {bs : Bytes} {cs : List Char}

/-- Only the newline itself has its byte. -/
theorem newline_mem_utf8EncodeChar {c : Char} (h : Bytes.newline ∈ String.utf8EncodeChar c) :
    c = '\n' := by
  have hbyte : ∀ {n : Nat}, n < 256 → (Bytes.newline = UInt8.ofNat n ↔ n = 10) := by
    intro n hn
    rw [← UInt8.toNat_inj, UInt8.toNat_ofNat', Nat.mod_eq_of_lt hn]
    exact eq_comm
  -- The bytes of a character of several bytes are all beyond it.
  unfold String.utf8EncodeChar at h
  dsimp only at h
  split_ifs at h <;> simp (disch := omega) only [List.mem_cons, List.not_mem_nil, hbyte, or_false]
    at h
  · exact Char.ext (UInt32.toNat_inj.1 h)
  all_goals omega

/-- A text without a newline has none in its bytes. -/
theorem newline_not_mem_encode (h : '\n' ∉ cs) : Bytes.newline ∉ encode cs := by
  intro hmem
  obtain ⟨c, hc, hbyte⟩ := List.mem_flatMap.1 hmem
  exact h (newline_mem_utf8EncodeChar hbyte ▸ hc)

/-- No other number is that of the newline. -/
theorem ofNat_ne_newline {n : Nat} (h : n ≠ 10) : Char.ofNat n ≠ '\n' := by
  have hnat : (Char.ofNat n).toNat = n ∨ (Char.ofNat n).toNat = 0 := by
    by_cases hvalid : n.isValidChar
    · have hchar : Char.ofNat n = Char.ofNatAux n hvalid := dif_pos hvalid
      rw [hchar]
      exact .inl rfl
    · -- A number that is that of no character stands for the first one.
      have hchar : Char.ofNat n = '\x00' := dif_neg hvalid
      rw [hchar]
      exact .inr rfl
  intro heq
  rw [heq] at hnat
  rcases hnat with hnat | hnat
  · exact h hnat.symm
  · exact absurd hnat (by decide)

/-- A character that goes on from large enough bits is no newline. -/
theorem continuation_ne_newline {extra bits : Nat} {low high : UInt8} {c : Char}
    (h : (continuation extra low high bits bs).1 = some c) (hbits : 10 < bits) : c ≠ '\n' := by
  induction extra generalizing low high bits bs with
  | zero =>
    obtain rfl := Option.some.inj h
    exact ofNat_ne_newline (by omega)
  | succ extra ih =>
    cases bs with
    | nil => cases h
    | cons b rest =>
      rw [continuation] at h
      split_ifs at h
      exact ih h (by omega)

/-- The first two bytes of a character of several bytes are enough for that. -/
theorem Lead.bits_large {b next : UInt8} {lead : Lead} (h : Lead.ofByte? b = some lead)
    (hnext : lead.low ≤ next) :
    (∃ extra, lead.extra = extra + 1) ∧ 10 < lead.bits * 64 + (next.toNat - 0x80) := by
  unfold Lead.ofByte? at h
  split_ifs at h <;> cases h <;> refine ⟨⟨_, rfl⟩, ?_⟩ <;>
    simp only [UInt8.lt_iff_toNat_lt, UInt8.le_iff_toNat_le, ← UInt8.toNat_inj,
      UInt8.reduceToNat] at * <;> omega

/-- Only its own byte is read as a newline. -/
theorem piece_ne_newline {b : UInt8} {rest : Bytes} {c : Char}
    (h : (piece b rest).1 = some c) (hb : b ≠ Bytes.newline) : c ≠ '\n' := by
  unfold piece at h
  split_ifs at h with hascii
  · obtain rfl := Option.some.inj h
    exact ofNat_ne_newline fun hnat => hb (UInt8.toNat_inj.1 hnat)
  · rcases hlead : Lead.ofByte? b with _ | lead
    · simp [hlead] at h
    · simp only [hlead] at h
      obtain ⟨⟨extra, hextra⟩, -⟩ := Lead.bits_large hlead (UInt8.le_refl lead.low)
      rw [hextra] at h
      cases rest with
      | nil => cases h
      | cons next rest =>
        rw [continuation] at h
        split_ifs at h with hfits
        obtain ⟨-, hbits⟩ := Lead.bits_large hlead hfits.1
        exact continuation_ne_newline h hbits

/-- What is left after a piece is the end of what was there. -/
theorem continuation_suffix (extra : Nat) (low high : UInt8) (bits : Nat) (bs : Bytes) :
    (continuation extra low high bits bs).2 <:+ bs := by
  induction extra generalizing low high bits bs with
  | zero => exact List.suffix_rfl
  | succ extra ih =>
    cases bs with
    | nil => exact List.suffix_rfl
    | cons b rest =>
      rw [continuation]
      split_ifs
      · exact (ih ..).trans (List.suffix_cons b rest)
      · exact List.suffix_rfl

theorem piece_suffix (b : UInt8) (rest : Bytes) : (piece b rest).2 <:+ rest := by
  unfold piece
  split_ifs
  · exact List.suffix_rfl
  · split
    · exact List.suffix_rfl
    · exact continuation_suffix ..

/-- **Reading** bytes without a newline gives none, whether they are text or not. -/
theorem newline_not_mem_decodeLossy {bs : Bytes} (h : Bytes.newline ∉ bs) :
    '\n' ∉ decodeLossy bs := by
  match bs with
  | [] => simp [decodeLossy]
  | b :: rest =>
    obtain ⟨hb, hrest⟩ := not_or.1 (List.mem_cons.not.1 h)
    have shorter := length_piece_le b rest
    have hleft : Bytes.newline ∉ (piece b rest).2 := fun hmem =>
      hrest ((piece_suffix b rest).subset hmem)
    have hfirst : '\n' ≠ (piece b rest).1.getD replacement := by
      rcases hpiece : (piece b rest).1 with _ | c
      · decide
      · exact (piece_ne_newline hpiece (Ne.symm hb)).symm
    rw [decodeLossy, pieces_cons, List.map_cons, ← decodeLossy]
    exact List.not_mem_cons_of_ne_of_not_mem hfirst (newline_not_mem_decodeLossy hleft)
termination_by bs.length
decreasing_by
  rw [List.length_cons]
  omega

end Utf8

/-- The byte string is one line and its end. -/
def Bytes.IsLine (bs : Bytes) : Prop := ∃ line, newline ∉ line ∧ bs = line ++ [newline]

/-! ### Texts put together -/

namespace OneLine

variable {text text' separator word : String} {texts : List String}

theorem ofList {cs : List Char} (h : '\n' ∉ cs) : OneLine (String.ofList cs) := by
  rwa [OneLine, String.toList_ofList]

theorem append (h : OneLine text) (h' : OneLine text') : OneLine (text ++ text') := by
  rw [OneLine, String.toList_append, List.mem_append]
  exact not_or.2 ⟨h, h'⟩

/-- Texts on one line each, with such a text between neighbours, are on one line. -/
theorem intercalate (hseparator : OneLine separator) (h : ∀ text ∈ texts, OneLine text) :
    OneLine (separator.intercalate texts) := by
  induction texts with
  | nil => exact .ofList (by simp)
  | cons first rest ih =>
    obtain ⟨hfirst, hrest⟩ := List.forall_mem_cons.1 h
    cases rest with
    | nil => rwa [String.intercalate_singleton]
    | cons next rest =>
      rw [String.intercalate_cons_cons]
      exact (hfirst.append hseparator).append (ih hrest)

/-- Numbers are written in digits. -/
theorem natural (n : Nat) : OneLine (toString n) := by
  show '\n' ∉ (String.ofList (Nat.toDigits 10 n)).toList
  rw [String.toList_ofList]
  intro hmem
  exact absurd (Nat.isDigit_of_mem_toDigits (by decide) (by decide) hmem) (by decide)

/-- A newline would end a word. -/
theorem of_isWord (h : IsWord word) : OneLine word := fun hmem =>
  absurd (h.2 _ hmem) (by decide)

/-- With a newline after it, such a text is a line and its end. -/
theorem isLine (h : OneLine text) : (Bytes.ofString (text ++ "\n")).IsLine := by
  refine ⟨Bytes.ofString text, Utf8.newline_not_mem_encode h, ?_⟩
  rw [Bytes.ofString, String.toList_append, Utf8.encode, List.flatMap_append]
  rfl

/-- What is left without blanks at the end is on one line. -/
theorem trimBlankEnd (h : OneLine text) : OneLine (trimBlankEnd text) := by
  refine .ofList fun hmem => h ?_
  exact List.mem_reverse.1 ((List.dropWhile_sublist _).subset (List.mem_reverse.1 hmem))

end OneLine

/-- A newline at the end of a text is a blank. -/
theorem trimBlankEnd_append_newline (text : String) :
    trimBlankEnd (text ++ "\n") = trimBlankEnd text := by
  have hchars : (text ++ "\n").toList.reverse = '\n' :: text.toList.reverse := by simp
  rw [trimBlankEnd, hchars, List.dropWhile_cons_of_pos (by decide), trimBlankEnd]

namespace Path

/-- A path without a newline is shown on one line. -/
theorem oneLine_display {p : Path} (h : Bytes.newline ∉ p.bytes) : OneLine p.display :=
  .ofList (Utf8.newline_not_mem_decodeLossy h)

/-- So is one that was written on one line. -/
theorem oneLine_display_ofString {text : String} (h : OneLine text) :
    OneLine (ofString text).display :=
  oneLine_display (Utf8.newline_not_mem_encode h)

end Path

/-! ### Failed requests -/

/-- The reasons of the system are on one line. -/
theorem Errno.oneLine_description (e : Errno) : OneLine e.description := by
  unfold description
  split
  case h_133 => exact OneLine.append (.ofList (by decide)) (.natural e.code)
  all_goals exact .ofList (by decide)

namespace IoError

variable {cause : IoError}

/-- The failed request comes with no text of its own. -/
def IsPlain (cause : IoError) : Prop := ∀ text, cause ≠ .other text

theorem isPlain_os (reason : Errno) : (os reason).IsPlain := fun _ h => by cases h

/-- Such a failed request is shown on one line. -/
theorem IsPlain.oneLine (h : cause.IsPlain) : OneLine cause.message := by
  cases cause with
  | os reason =>
    exact ((reason.oneLine_description.append (.ofList (by decide))).append
      (.natural reason.code)).append (.ofList (by decide))
  | other text => exact absurd rfl (h text)
  | nulInPath | nulInCommand | invalidText | commandNotFound => exact .ofList (by decide)

end IoError

/-- A request with a text that no path may have never reaches the system. -/
theorem FileSystem.isPlain_of_guarded {α : Type} {path : Path} {ask : Except Errno α}
    {cause : IoError} (h : guarded path ask = .error cause) : cause.IsPlain := by
  unfold guarded at h
  split_ifs at h
  · cases h
    exact fun _ h => by cases h
  · cases ask with
    | error reason =>
      cases h
      exact IoError.isPlain_os reason
    | ok => cases h

end CommandShell

import CommandShell.CommandLine
import CommandShell.LineEditor
import CommandShell.Proofs.LineWords
import CommandShell.Proofs.Pieces
import Mathlib.Data.List.TakeWhile

namespace CommandShell

/-!
# TextLines — lines of a text, read one after the other

A line of text ends with a newline, which is part of no other character. So a text can be read line
by line, and the bytes of a line are those of its characters. Of what a line editor does to a line,
dropping the ending changes none of its words:

* `Utf8.decode?_eq_some_iff`, `Utf8.decode?_append_newline` — a text taken apart at a newline;
* `words_dropEnding` — the words of a line with and without its ending;
* `Bytes.firstLine` — the first line of a text, its newline included;
* `Bytes.lines_eq_cons` — the lines of a text are its first one and those of what comes after it;
* `Supply.takeLine_eq` — what reading a line takes.
-/

namespace Utf8

/-! ### Characters on both sides of a newline -/

variable {b : UInt8} {cs : List Char}

/-- A character of several bytes ends before a byte that could be a character of its own. -/
theorem continuation_append (hb : b < 0x80) (extra : Nat) {low : UInt8} (hlow : 0x80 ≤ low)
    (high : UInt8) (bits : Nat) (front back : Bytes) :
    continuation extra low high bits (front ++ b :: back)
      = ((continuation extra low high bits front).1,
          (continuation extra low high bits front).2 ++ b :: back) := by
  induction extra generalizing low high bits front with
  | zero => rfl
  | succ extra ih =>
    cases front with
    | nil =>
      -- Such a byte goes on with the character no more than the end of the text does.
      have hless : ¬ (low ≤ b ∧ b ≤ high) := fun h =>
        absurd (UInt8.lt_of_lt_of_le hb hlow) (UInt8.not_lt.2 h.1)
      simp only [List.nil_append, continuation, if_neg hless]
    | cons first front =>
      simp only [List.cons_append, continuation]
      split_ifs
      · exact ih (UInt8.le_refl _) _ _ front
      · rfl

/-- The second byte of a character is never a character of its own. -/
theorem Lead.low_le {lead : Lead} (h : Lead.ofByte? b = some lead) : 0x80 ≤ lead.low := by
  unfold Lead.ofByte? at h
  split_ifs at h <;> cases h <;> dsimp only <;> decide

/-- The first piece ends before a byte that is a character of its own, or with it. -/
theorem piece_append (hb : b < 0x80) (first : UInt8) (front back : Bytes) :
    piece first (front ++ b :: back)
      = ((piece first front).1, (piece first front).2 ++ b :: back) := by
  unfold piece
  split_ifs
  · rfl
  · split
    · rfl
    · rename_i lead hlead
      exact continuation_append hb lead.extra (Lead.low_le hlead) lead.high lead.bits front back

/-- **Pieces** do not go over a byte that is a character of its own. -/
theorem pieces_append (hb : b < 0x80) (front back : Bytes) :
    pieces (front ++ b :: back) = pieces front ++ pieces (b :: back) := by
  match front with
  | [] => simp
  | first :: front =>
    have shorter := length_piece_le first front
    rw [List.cons_append, pieces_cons, pieces_cons, piece_append hb]
    simp only
    rw [pieces_append hb, List.cons_append]
termination_by front.length
decreasing_by
  rw [List.length_cons]
  omega

/-- A byte that is a character of its own is read as that character, whatever stands around it. -/
theorem decodeLossy_append_cons (hb : b < 0x80) (front back : Bytes) :
    decodeLossy (front ++ b :: back)
      = decodeLossy front ++ Char.ofNat b.toNat :: decodeLossy back := by
  have hpiece : piece b back = (some (Char.ofNat b.toNat), back) := if_pos hb
  simp only [decodeLossy, pieces_append hb, pieces_cons, hpiece, List.map_append, List.map_cons,
    Option.getD_some]

/-- A text is one piece for each character. -/
theorem decode?_eq_some_iff {bs : Bytes} : decode? bs = some cs ↔ pieces bs = cs.map some := by
  unfold decode?
  generalize pieces bs = found
  induction found generalizing cs with
  | nil => cases cs <;> simp
  | cons piece rest ih =>
    rw [List.mapM_cons]
    cases piece with
    | none => cases cs <;> simp
    | some c =>
      rcases hrest : rest.mapM id with _ | others
      · have hnone : ∀ cs : List Char, rest ≠ cs.map some := by
          intro cs heq
          rw [ih.2 heq] at hrest
          cases hrest
        cases cs <;> simp [hnone]
      · rw [ih] at hrest
        subst hrest
        cases cs <;> simp [List.map_inj_right]

/-- A text that goes on after a newline is two texts. -/
theorem decode?_append_newline {front back : Bytes}
    (h : decode? (front ++ Bytes.newline :: back) = some cs) :
    ∃ csFront csBack, decode? front = some csFront ∧ decode? back = some csBack ∧
      cs = csFront ++ '\n' :: csBack := by
  have hpiece : piece Bytes.newline back = (some '\n', back) := rfl
  rw [decode?_eq_some_iff, pieces_append (by decide), pieces_cons, hpiece] at h
  obtain ⟨csFront, csRest, rfl, hfront, hrest⟩ := List.map_eq_append_iff.1 h.symm
  obtain ⟨c, csBack, rfl, hc, hback⟩ := List.map_eq_cons_iff.1 hrest
  cases hc
  exact ⟨csFront, csBack, decode?_eq_some_iff.2 hfront.symm, decode?_eq_some_iff.2 hback.symm, rfl⟩

/-- With a newline after it a text has one more character. -/
theorem decode?_concat_newline {bs : Bytes} (h : decode? bs = some cs) :
    decode? (bs ++ [Bytes.newline]) = some (cs ++ ['\n']) := by
  have hpieces : pieces [Bytes.newline] = ['\n'].map some := by
    rw [pieces_cons]
    simp [piece, Bytes.newline]
  rw [decode?_eq_some_iff] at h ⊢
  rw [pieces_append (by decide), h, hpieces, List.map_append]

/-- What is text is read as such even where other bytes would be put up with. -/
theorem toStringLossy_of_decode? {bs : Bytes} (h : decode? bs = some cs) :
    bs.toStringLossy = String.ofList cs := by
  rw [decode?_eq_some_iff] at h
  have hlossy : decodeLossy bs = cs := by
    rw [decodeLossy, h, List.map_map]
    exact List.map_id cs
  rw [Bytes.toStringLossy, hlossy]

end Utf8

/-! ### Words and the ending of a line -/

/-- A delimiter at the end of a line belongs to no word. -/
theorem Words.runs_concat {d : Char} (hd : isDelimiter d = true) (cs : List Char) :
    runs (cs ++ [d]) = runs cs := by
  rw [runs_append hd]
  exact List.append_nil (runs cs)

namespace LineEditor

/-- What the ending of a line is. -/
theorem dropEnding_cases (typed : List Char) :
    dropEnding typed = typed ∨ typed = dropEnding typed ++ ['\n'] ∨
      typed = dropEnding typed ++ ['\r', '\n'] := by
  unfold dropEnding
  split
  · rename_i rest hrest
    right; right
    rw [← List.reverse_reverse typed, hrest]
    simp
  · rename_i rest _ hrest
    right; left
    rw [← List.reverse_reverse typed, hrest]
    simp
  · exact .inl rfl

/-- Dropping the ending of a line changes none of its words. -/
theorem runs_dropEnding (typed : List Char) : Words.runs (dropEnding typed) = Words.runs typed := by
  rcases dropEnding_cases typed with h | h | h
  · rw [h]
  · conv_rhs => rw [h, Words.runs_concat (by decide)]
  · have htwo : dropEnding typed ++ ['\r', '\n'] = (dropEnding typed ++ ['\r']) ++ ['\n'] := by
      simp
    conv_rhs => rw [h, htwo, Words.runs_concat (by decide), Words.runs_concat (by decide)]

/-- A line without backspaces only loses its ending. -/
theorem edit_of_not_mem {typed : List Char} (h : backspace ∉ typed) :
    edit typed = dropEnding typed := by
  have hline : backspace ∉ dropEnding typed := by
    intro hmem
    rcases dropEnding_cases typed with heq | heq | heq
    · exact h (heq ▸ hmem)
    · exact h (heq ▸ List.mem_append_left _ hmem)
    · exact h (heq ▸ List.mem_append_left _ hmem)
  unfold edit
  simp [hline]

end LineEditor

/-- **Words** of a line as it was typed, and of the line as it is executed. -/
theorem words_dropEnding (typed : List Char) :
    words (String.ofList (LineEditor.dropEnding typed)) = words (String.ofList typed) := by
  rw [words, words, String.toList_ofList, String.toList_ofList, LineEditor.runs_dropEnding]

/-! ### The first line of a text -/

namespace Bytes

variable {bs front back : Bytes} {cs : List Char}

/-- The first line of a byte string, with the newline that ends it, if there is one. -/
def firstLine (bs : Bytes) : Bytes :=
  let line := bs.takeWhile (· ≠ newline)
  line ++ (bs.drop line.length).take 1

/-- What comes after the first line. -/
def afterFirstLine (bs : Bytes) : Bytes := bs.drop (firstLine bs).length

/-- A byte string is one line, or there is a first newline. -/
theorem newline_cases (bs : Bytes) :
    newline ∉ bs ∨ ∃ front back, newline ∉ front ∧ bs = front ++ newline :: back := by
  by_cases h : newline ∈ bs
  · obtain ⟨front, back, hbs, hfront⟩ := List.eq_append_cons_of_mem h
    exact .inr ⟨front, back, hfront, hbs⟩
  · exact .inl h

theorem takeWhile_of_not_mem (h : newline ∉ front) : front.takeWhile (· ≠ newline) = front :=
  List.takeWhile_eq_self_iff.2 fun _ hb => decide_eq_true fun heq => h (heq ▸ hb)

theorem takeWhile_append (h : newline ∉ front) (back : Bytes) :
    (front ++ newline :: back).takeWhile (· ≠ newline) = front := by
  have hfront : ∀ b ∈ front, decide (b ≠ newline) = true := fun _ hb =>
    decide_eq_true fun heq => h (heq ▸ hb)
  rw [List.takeWhile_append_of_pos hfront]
  simp

theorem firstLine_of_not_mem (h : newline ∉ bs) : firstLine bs = bs := by
  rw [firstLine, takeWhile_of_not_mem h]
  simp

theorem firstLine_append (h : newline ∉ front) (back : Bytes) :
    firstLine (front ++ newline :: back) = front ++ [newline] := by
  rw [firstLine, takeWhile_append h]
  simp

theorem afterFirstLine_of_not_mem (h : newline ∉ bs) : afterFirstLine bs = [] := by
  rw [afterFirstLine, firstLine_of_not_mem h, List.drop_length]

theorem afterFirstLine_append (h : newline ∉ front) (back : Bytes) :
    afterFirstLine (front ++ newline :: back) = back := by
  rw [afterFirstLine, firstLine_append h]
  simp

/-- The first line and what comes after it are the whole. -/
theorem firstLine_append_afterFirstLine (bs : Bytes) : firstLine bs ++ afterFirstLine bs = bs := by
  rcases newline_cases bs with h | ⟨front, back, h, rfl⟩
  · rw [firstLine_of_not_mem h, afterFirstLine_of_not_mem h, List.append_nil]
  · rw [firstLine_append h, afterFirstLine_append h, List.append_assoc, List.singleton_append]

/-- Only where nothing is left the first line is empty. -/
theorem firstLine_eq_nil_iff : firstLine bs = [] ↔ bs = [] := by
  rcases newline_cases bs with h | ⟨front, back, h, rfl⟩
  · rw [firstLine_of_not_mem h]
  · rw [firstLine_append h]
    simp

/-- The first line of a text is text, and so is what comes after it. -/
theorem decode?_firstLine (h : Utf8.decode? bs = some cs) :
    ∃ typed rest, Utf8.decode? (firstLine bs) = some typed ∧
      Utf8.decode? (afterFirstLine bs) = some rest ∧ cs = typed ++ rest := by
  rcases newline_cases bs with hline | ⟨front, back, hline, rfl⟩
  · rw [firstLine_of_not_mem hline, afterFirstLine_of_not_mem hline]
    exact ⟨cs, [], h, Utf8.decode?_eq_some_iff.2 Utf8.pieces_nil, (List.append_nil cs).symm⟩
  · obtain ⟨csFront, csBack, hfront, hback, rfl⟩ := Utf8.decode?_append_newline h
    rw [firstLine_append hline, afterFirstLine_append hline]
    exact ⟨csFront ++ ['\n'], csBack, Utf8.decode?_concat_newline hfront, hback, by simp⟩

/-- **The lines of a text** are its first one, without the newline at its end, and those of what
    comes after it. The words of a line do not depend on that newline. -/
theorem lines_eq_cons (h : Utf8.decode? bs = some cs) (hbs : bs ≠ []) :
    ∃ line typed, lines bs = line :: lines (afterFirstLine bs) ∧
      Utf8.decode? (firstLine bs) = some typed ∧
      words line.toStringLossy = words (String.ofList typed) := by
  rcases newline_cases bs with hline | ⟨front, back, hline, rfl⟩
  · refine ⟨bs, cs, ?_, ?_, ?_⟩
    · rw [lines_of_not_mem hline, if_neg hbs, afterFirstLine_of_not_mem hline]
      rfl
    · rwa [firstLine_of_not_mem hline]
    · rw [Utf8.toStringLossy_of_decode? h]
  · obtain ⟨csFront, csBack, hfront, -, -⟩ := Utf8.decode?_append_newline h
    refine ⟨front, csFront ++ ['\n'], ?_, ?_, ?_⟩
    · -- Cut after its first newline, the text is one line and the rest.
      have hpieces : splitOn newline (front ++ [newline]) = [front] ++ [[]] := by
        rw [splitOn_append_cons, splitOn_of_not_mem hline]
        rfl
      have hsplit := lines_append hpieces back
      rw [List.append_assoc, List.singleton_append, List.nil_append] at hsplit
      rw [hsplit, afterFirstLine_append hline, List.singleton_append]
    · rw [firstLine_append hline]
      exact Utf8.decode?_concat_newline hfront
    · rw [Utf8.toStringLossy_of_decode? hfront, words, words, String.toList_ofList,
        String.toList_ofList, Words.runs_concat (by decide)]

end Bytes

namespace Supply

variable {s : Supply}

/-- Reading a line takes the first one, or all of what stands before a failure and no newline. -/
theorem takeLine_cases (s : Supply) :
    s.takeLine = (.ok (Bytes.firstLine s.pending),
      { s with pending := Bytes.afterFirstLine s.pending }) ∨
    ∃ reason, s.failure = some reason ∧ s.takeLine = (.error reason, { s with pending := [] }) := by
  obtain ⟨pending, failure⟩ := s
  unfold takeLine
  rcases Bytes.newline_cases pending with hline | ⟨front, back, hline, rfl⟩
  · rw [Bytes.firstLine_of_not_mem hline, Bytes.afterFirstLine_of_not_mem hline]
    simp only [Bytes.takeWhile_of_not_mem hline, List.drop_length]
    cases failure with
    | none => exact .inl rfl
    | some reason => exact .inr ⟨reason, rfl, rfl⟩
  · rw [Bytes.firstLine_append hline, Bytes.afterFirstLine_append hline]
    left
    simp only [Bytes.takeWhile_append hline, List.drop_left]

/-- **Reading a line** takes the first one, if what is read ends without a failure. -/
theorem takeLine_eq (h : s.failure = none) : s.takeLine = (.ok (Bytes.firstLine s.pending),
    { s with pending := Bytes.afterFirstLine s.pending }) := by
  rcases s.takeLine_cases with heq | ⟨reason, hfailure, -⟩
  · exact heq
  · rw [h] at hfailure
    cases hfailure

/-- A line that is read is the first one. -/
theorem takeLine_ok {typed : Bytes} (h : s.takeLine.1 = .ok typed) :
    typed = Bytes.firstLine s.pending ∧ s.takeLine.2.pending = Bytes.afterFirstLine s.pending := by
  rcases s.takeLine_cases with heq | ⟨reason, -, heq⟩
  · rw [heq] at h ⊢
    exact ⟨(Except.ok.inj h).symm, rfl⟩
  · rw [heq] at h
    cases h

/-- Whatever reading a line gives, what is left is an end of what was there. -/
theorem takeLine_suffix (s : Supply) :
    s.takeLine.2.pending <:+ s.pending ∧ s.takeLine.2.failure = s.failure := by
  rcases s.takeLine_cases with heq | ⟨reason, -, heq⟩
  · rw [heq]
    exact ⟨List.drop_suffix _ _, rfl⟩
  · rw [heq]
    exact ⟨List.nil_suffix, rfl⟩

end Supply

end CommandShell

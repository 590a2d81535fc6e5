import CommandShell.Proofs.SpacedWords

namespace CommandShell

/-!
# MaximalRuns — the words of a line and the gaps around them

Between its words a line has gaps, and nothing else. A gap may be empty before the first word and
after the last one, but not between two words, so that a word never goes on in the next one:

* `woven`, `Gaps` — a line put together from words and gaps, and the gaps that words need;
* `spaced_woven` — such a line is one that the words make up;
* `exists_woven` — every line is put together so;
* `words_eq_iff_woven` — hence the words of a line are the only ones it can be put together from;
* `words_append_gap_append` — a line is taken apart on both sides of a gap;
* `words_maximal_runs` — all of it, and which characters of a line its words keep.
-/

/-- The line of the gaps and the words in turn, beginning with a gap. -/
def woven : List String → List String → String
  | [], _ => ""
  | gap :: _, [] => gap
  | gap :: gaps, word :: words => gap ++ (word ++ woven gaps words)

/-- The gaps that so many words need: one before the first, and one after each. Those that stand
    between two words are not empty. -/
structure Gaps (gaps : List String) (count : Nat) : Prop where
  /-- There is one gap more than there are words. -/
  length_eq : gaps.length = count + 1
  /-- They hold delimiters only. -/
  isGap : ∀ gap ∈ gaps, IsGap gap
  /-- Two words are kept apart. -/
  apart : ∀ gap ∈ gaps.tail.dropLast, gap ≠ ""

variable {gap line : String} {gaps list : List String} {c : Char}

/-! ### Gaps and their first characters -/

theorem isGap_empty : IsGap "" := by simp [IsGap]

theorem isGap_cons_iff : IsGap (String.singleton c ++ gap) ↔ isDelimiter c = true ∧ IsGap gap := by
  simp [IsGap]

/-- A gap that is not empty begins with a delimiter. -/
theorem IsGap.exists_cons (h : IsGap gap) (hne : gap ≠ "") :
    ∃ d rest, gap = String.singleton d ++ rest ∧ isDelimiter d = true ∧ IsGap rest := by
  rcases hchars : gap.toList with _ | ⟨d, rest⟩
  · exact absurd (by simpa using hchars) hne
  · have hgap : gap = String.singleton d ++ String.ofList rest := by
      rw [← String.toList_inj, hchars]
      simp
    rw [hgap, isGap_cons_iff] at h
    exact ⟨d, String.ofList rest, hgap, h⟩

/-- A character in front of a line is put in front of its first gap. -/
theorem woven_cons_gap (c : Char) (gap : String) (gaps list : List String) :
    woven ((String.singleton c ++ gap) :: gaps) list
      = String.singleton c ++ woven (gap :: gaps) list := by
  cases list with
  | nil => rfl
  | cons word list => simp only [woven, String.append_assoc]

namespace Gaps

/-- Without words there is one gap. -/
theorem zero_iff : Gaps gaps 0 ↔ ∃ gap, gaps = [gap] ∧ IsGap gap := by
  constructor
  · intro h
    obtain ⟨gap, rfl⟩ := List.length_eq_one_iff.1 h.length_eq
    exact ⟨gap, rfl, h.isGap gap (List.mem_singleton_self gap)⟩
  · rintro ⟨gap, rfl, hgap⟩
    exact ⟨rfl, List.forall_mem_singleton.2 hgap, by simp⟩

/-- One word has a gap on either side. -/
theorem one_iff :
    Gaps gaps 1 ↔ ∃ before after, gaps = [before, after] ∧ IsGap before ∧ IsGap after := by
  constructor
  · intro h
    obtain ⟨before, after, rfl⟩ := List.length_eq_two.1 h.length_eq
    exact ⟨before, after, rfl, h.isGap before (by simp), h.isGap after (by simp)⟩
  · rintro ⟨before, after, rfl, hbefore, hafter⟩
    exact ⟨rfl, by simp [hbefore, hafter], by simp⟩

/-- Of two words or more, the first is kept apart from the others. -/
theorem add_two_iff {count : Nat} :
    Gaps gaps (count + 2) ↔ ∃ before between rest, gaps = before :: between :: rest ∧
      IsGap before ∧ between ≠ "" ∧ Gaps (between :: rest) (count + 1) := by
  constructor
  · rintro ⟨hlength, hgaps, happart⟩
    obtain ⟨before, gaps, rfl⟩ := List.exists_cons_of_length_eq_add_one hlength
    obtain ⟨between, rest, rfl⟩ := List.exists_cons_of_length_eq_add_one (Nat.succ.inj hlength)
    obtain ⟨hbefore, hothers⟩ := List.forall_mem_cons.1 hgaps
    have hrest : rest ≠ [] := by
      rintro rfl
      simp at hlength
    rw [List.tail_cons, List.dropLast_cons_of_ne_nil hrest] at happart
    obtain ⟨hbetween, hlater⟩ := List.forall_mem_cons.1 happart
    exact ⟨before, between, rest, rfl, hbefore, hbetween, Nat.succ.inj hlength, hothers, hlater⟩
  · rintro ⟨before, between, rest, rfl, hbefore, hbetween, hlength, hothers, hlater⟩
    have hrest : rest ≠ [] := by
      rintro rfl
      simp at hlength
    refine ⟨congrArg Nat.succ hlength, List.forall_mem_cons.2 ⟨hbefore, hothers⟩, ?_⟩
    rw [List.tail_cons, List.dropLast_cons_of_ne_nil hrest]
    exact List.forall_mem_cons.2 ⟨hbetween, hlater⟩

/-- Whatever the first gap is, the others serve as well behind another one. -/
theorem replace_first {count : Nat} {gap' : String} (h : Gaps (gap :: gaps) count)
    (hgap : IsGap gap') : Gaps (gap' :: gaps) count where
  length_eq := h.length_eq
  isGap := List.forall_mem_cons.2 ⟨hgap, (List.forall_mem_cons.1 h.isGap).2⟩
  apart := h.apart

end Gaps

/-! ### Putting together -/

/-- **Words with gaps around them** make up the line that is put together from them. -/
theorem spaced_woven (h : Gaps gaps list.length) : Spaced list (woven gaps list) := by
  induction list generalizing gaps with
  | nil =>
    obtain ⟨gap, rfl, hgap⟩ := Gaps.zero_iff.1 h
    exact .blank hgap
  | cons word list ih =>
    cases list with
    | nil =>
      obtain ⟨before, after, rfl, hbefore, hafter⟩ := Gaps.one_iff.1 h
      have hline : woven [before, after] [word] = before ++ word ++ after :=
        (String.append_assoc ..).symm
      rw [hline]
      exact .last hbefore hafter
    | cons next list =>
      obtain ⟨before, between, rest, rfl, hbefore, hne, hothers⟩ := Gaps.add_two_iff.1 h
      -- The first delimiter of the gap ends the word, and the others belong to what follows.
      obtain ⟨d, gap, rfl, hd, hgap⟩ := (hothers.isGap between List.mem_cons_self).exists_cons hne
      have hline : woven (before :: (String.singleton d ++ gap) :: rest) (word :: next :: list)
          = before ++ word ++ String.singleton d ++ woven (gap :: rest) (next :: list) := by
        rw [woven, woven_cons_gap]
        simp only [String.append_assoc]
      rw [hline]
      exact .cons hbefore hd (ih (hothers.replace_first hgap))

/-! ### Taking apart -/

/-- A character in front of a line that is put together: a delimiter belongs to the first gap, and
    any other begins the first word, or is one. -/
theorem exists_woven_cons (c : Char) (hgaps : Gaps gaps list.length)
    (hwords : ∀ word ∈ list, IsWord word) :
    ∃ gaps' list', Gaps gaps' list'.length ∧ (∀ word ∈ list', IsWord word) ∧
      String.singleton c ++ woven gaps list = woven gaps' list' := by
  obtain ⟨gap, gaps, rfl⟩ := List.exists_cons_of_length_eq_add_one hgaps.length_eq
  have hgap : IsGap gap := hgaps.isGap gap List.mem_cons_self
  by_cases hc : isDelimiter c = true
  · exact ⟨_, list, hgaps.replace_first (isGap_cons_iff.2 ⟨hc, hgap⟩), hwords,
      (woven_cons_gap ..).symm⟩
  have hplain : isDelimiter c = false := by simpa using hc
  have hword : IsWord (String.singleton c) := by simp [IsWord, hplain]
  cases list with
  | nil =>
    -- It is the only word, and the gap comes after it.
    obtain ⟨gap', hsingle, -⟩ := Gaps.zero_iff.1 hgaps
    obtain ⟨rfl, rfl⟩ := List.cons.inj hsingle
    refine ⟨["", gap], [String.singleton c], Gaps.one_iff.2 ⟨_, _, rfl, isGap_empty, hgap⟩,
      List.forall_mem_singleton.2 hword, ?_⟩
    simp [woven]
  | cons word list =>
    by_cases hempty : gap = ""
    · -- It goes on in the first word.
      subst hempty
      obtain ⟨hfirst, hrest⟩ := List.forall_mem_cons.1 hwords
      refine ⟨"" :: gaps, (String.singleton c ++ word) :: list, hgaps,
        List.forall_mem_cons.2 ⟨?_, hrest⟩, ?_⟩
      · exact ⟨by simp [← String.toList_inj], by simpa [hplain] using hfirst.2⟩
      · simp [woven, String.append_assoc]
    · -- The gap keeps it apart from the first word.
      refine ⟨"" :: gap :: gaps, String.singleton c :: word :: list,
        Gaps.add_two_iff.2 ⟨_, _, _, rfl, isGap_empty, hempty, hgaps⟩,
        List.forall_mem_cons.2 ⟨hword, hwords⟩, ?_⟩
      simp [woven]

/-- **Every line** is put together from words and gaps. -/
theorem exists_woven (line : String) : ∃ gaps list, Gaps gaps list.length ∧
    (∀ word ∈ list, IsWord word) ∧ line = woven gaps list := by
  -- The line grows at its front.
  rw [← String.ofList_toList (s := line)]
  induction line.toList with
  | nil => exact ⟨[""], [], Gaps.zero_iff.2 ⟨_, rfl, isGap_empty⟩, by simp, rfl⟩
  | cons c cs ih =>
    obtain ⟨gaps, list, hgaps, hwords, hline⟩ := ih
    obtain ⟨gaps', list', hgaps', hwords', hline'⟩ := exists_woven_cons c hgaps hwords
    refine ⟨gaps', list', hgaps', hwords', ?_⟩
    rw [← hline', ← hline, ← String.toList_inj]
    simp

/-- **The words of a line** are the only ones that it is put together from. -/
theorem words_eq_iff_woven : words line = list ↔
    (∀ word ∈ list, IsWord word) ∧ ∃ gaps, Gaps gaps list.length ∧ line = woven gaps list := by
  constructor
  · rintro rfl
    obtain ⟨gaps, list, hgaps, hwords, rfl⟩ := exists_woven line
    rw [(spaced_woven hgaps).words_eq hwords]
    exact ⟨hwords, gaps, hgaps, rfl⟩
  · rintro ⟨hwords, gaps, hgaps, rfl⟩
    exact (spaced_woven hgaps).words_eq hwords

/-- Words with gaps between them, and none before the first or after the last one. -/
theorem words_woven_between (hwords : ∀ word ∈ list, IsWord word)
    (hgaps : ∀ gap ∈ gaps, IsGap gap ∧ gap ≠ "") (hlength : gaps.length = list.length - 1) :
    words (woven ("" :: (gaps ++ [""])) list) = list := by
  cases list with
  | nil => exact words_of_gap isGap_empty
  | cons word list =>
    have hends : ∀ gap ∈ "" :: (gaps ++ [""]), IsGap gap := by
      simp only [List.mem_cons, List.mem_append, List.not_mem_nil, or_false]
      rintro gap (rfl | hgap | rfl)
      · exact isGap_empty
      · exact (hgaps gap hgap).1
      · exact isGap_empty
    -- Only the gaps at the ends are empty, and these keep no words apart.
    refine words_eq_iff_woven.2 ⟨hwords, _, ⟨?_, hends, ?_⟩, rfl⟩
    · simpa using hlength
    · rw [List.tail_cons, List.dropLast_concat]
      exact fun gap hgap => (hgaps gap hgap).2

/-! ### What is kept -/

/-- The runs have the characters that are no delimiters, in their order. -/
theorem Words.flatten_runs (cs : List Char) :
    (runs cs).flatten = cs.filter (· ∉ [' ', '\n', '\r']) := by
  have hplain : ∀ c, decide (c ∉ [' ', '\n', '\r']) = !isDelimiter c := by
    intro c
    rw [Bool.eq_iff_iff]
    simp [isDelimiter, and_assoc]
  -- The run that is still open comes before those that are closed.
  have hextend : (cs.foldr extend ([], [])).1 ++ (cs.foldr extend ([], [])).2.flatten
      = cs.filter (!isDelimiter ·) := by
    induction cs with
    | nil => rfl
    | cons c cs ih =>
      rw [List.foldr_cons, extend, List.filter_cons, ← ih]
      split_ifs <;> simp_all
  rw [List.filter_congr fun c _ => hplain c, ← hextend, runs]
  split_ifs <;> simp_all

/-- The words of a line have its characters but for the delimiters, in their order. -/
theorem flatMap_words (line : String) :
    (words line).flatMap String.toList = line.toList.filter (· ∉ [' ', '\n', '\r']) := by
  rw [← Words.flatten_runs, words, List.flatMap_map, List.flatMap]
  simp

/-- **Words.** The words of a line are the only texts without a delimiter, none of them empty, that
    the line is put together from with gaps around them, those between two words not empty. So a
    line is taken apart on both sides of a delimiter, and words with any gaps between them are read
    back. Of the characters of the line, the words keep all but spaces, newlines and carriage
    returns, as they are and in their order. -/
theorem words_maximal_runs :
    (∀ (line : String) (list : List String), words line = list ↔
      (∀ word ∈ list, IsWord word) ∧
        ∃ gaps, Gaps gaps list.length ∧ line = woven gaps list) ∧
    (∀ (d : Char) (front back : String), isDelimiter d = true →
      words (front ++ String.singleton d ++ back) = words front ++ words back) ∧
    (∀ list gaps : List String, (∀ word ∈ list, IsWord word) →
      (∀ gap ∈ gaps, IsGap gap ∧ gap ≠ "") → gaps.length = list.length - 1 →
      words (woven ("" :: (gaps ++ [""])) list) = list) ∧
    (∀ line : String,
      (words line).flatMap String.toList = line.toList.filter (· ∉ [' ', '\n', '\r'])) :=
  ⟨fun _ _ => words_eq_iff_woven, fun _ front back hd => words_append_delimiter hd front back,
    fun _ _ hwords hgaps hlength => words_woven_between hwords hgaps hlength, flatMap_words⟩

namespace Sample

/-- Tabs, quotes and blanks of other kinds are parts of words, wherever they stand. -/
theorem kept_blanks :
    (∀ word ∈ ["\"a", "b\tc\u00A0", "\u2003"], IsWord word) ∧
    words "\"a\r\n b\tc\u00A0 \u2003" = ["\"a", "b\tc\u00A0", "\u2003"] := by
  have hwords : ∀ word ∈ ["\"a", "b\tc\u00A0", "\u2003"], IsWord word := by
    simp [IsWord, isDelimiter]
  have hgaps : ∀ gap ∈ ["\r\n ", " "], IsGap gap ∧ gap ≠ "" := by
    simp [IsGap, isDelimiter]
  have hline : "\"a\r\n b\tc\u00A0 \u2003"
      = woven ("" :: (["\r\n ", " "] ++ [""])) ["\"a", "b\tc\u00A0", "\u2003"] := by
    simp [woven]
  rw [hline]
  exact ⟨hwords, words_maximal_runs.2.2.1 _ _ hwords hgaps rfl⟩

end Sample

end CommandShell

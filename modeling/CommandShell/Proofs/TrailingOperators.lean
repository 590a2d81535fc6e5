import CommandShell.Proofs.DanglingOperators
import CommandShell.Proofs.SpacedWords
import Mathlib.Algebra.Ring.Parity
import Mathlib.Data.List.DropRight

namespace CommandShell

/-!
# TrailingOperators — the lines that cannot be read

Whether the last operator of a line has no file is seen from the left only: the operator before it
may have taken it as its file. But every run of operators begins anew after a word that is none, so
in the run that a line ends in every second operator is a file:

* `trailingOperators` — the operators that a list of words ends in;
* `Redirection.separate_of_last` — what comes before them reads well;
* `Redirection.separate_run_iff` — a run of operators fails exactly if it is odd;
* `CommandLine.parse_extended` — after a word more, whatever it is, a line that failed is read;
* `CommandLine.fails_iff_odd_run` — which lists of words and which lines fail, and how.
-/

/-- The operators that a list of words ends in: all those after the last word that is none. -/
def trailingOperators (words : List String) : List String :=
  words.rtakeWhile (· ∈ ["<", ">", ">>"])

theorem mem_trailingOperators {list : List String} :
    ∀ word ∈ trailingOperators list, word ∈ ["<", ">", ">>"] := by
  intro word hword
  have hoperator := List.mem_rtakeWhile_imp hword
  exact of_decide_eq_true hoperator

/-- What comes before them does not end in an operator. -/
theorem exists_append_trailingOperators (list : List String) :
    ∃ front, list = front ++ trailingOperators list ∧
      ∀ word, front.getLast? = some word → word ∉ ["<", ">", ">>"] := by
  refine ⟨list.rdropWhile (· ∈ ["<", ">", ">>"]), List.rdropWhile_append_rtakeWhile.symm, ?_⟩
  intro word hlast
  have hne : list.rdropWhile (· ∈ ["<", ">", ">>"]) ≠ [] := by
    intro hnil
    rw [hnil] at hlast
    cases hlast
  have hnot := List.rdropWhile_last_not (· ∈ ["<", ">", ">>"]) list hne
  rw [List.getLast?_eq_some_getLast hne] at hlast
  rw [Option.some.inj hlast] at hnot
  simpa using hnot

namespace Redirection

variable {words front run : List String} {failure : Failure}

/-- Words that do not end in an operator read well. -/
theorem separate_of_last (h : ∀ word, front.getLast? = some word → word ∉ ["<", ">", ">>"]) :
    ∃ found kept, separate front = ⟨.ok found, kept⟩ := by
  rcases hread : separate front with ⟨failure | found, kept⟩
  · -- A failure leaves the operator it found at the end.
    obtain ⟨before, found, left, direction, -, rfl, -, -⟩ := separate_eq_error_iff.1 hread
    have hplain := h direction.operator List.getLast?_concat
    rw [← Direction.ofWord?_eq_none_iff, Direction.ofWord?_operator] at hplain
    cases hplain
  · exact ⟨found, kept, rfl⟩

/-- **A run of operators** is read in pairs, so that an odd one leaves an operator without a file. -/
theorem separate_run_iff (h : ∀ word ∈ run, word ∈ ["<", ">", ">>"]) :
    (∃ failure, (separate run).result = .error failure) ↔ Odd run.length := by
  fun_induction separate run with
  | case1 => simp
  | case2 word rest hword ih =>
    have hoperator : word ∈ ["<", ">", ">>"] := h word List.mem_cons_self
    exact absurd hoperator (Direction.ofWord?_eq_none_iff.1 hword)
  | case3 word direction hword => simp
  | case4 word direction target rest hword ih =>
    -- The operator and the one it takes as its file do not change what is odd.
    have hrest : ∀ word ∈ rest, word ∈ ["<", ">", ">>"] := fun word hmem =>
      h word (List.mem_cons_of_mem _ (List.mem_cons_of_mem _ hmem))
    have hodd : Odd (word :: target :: rest).length ↔ Odd rest.length := by
      rw [List.length_cons, List.length_cons, Nat.odd_add_one, Nat.odd_add_one, not_not]
    rw [hodd, ← ih hrest]
    cases (separate rest).result <;> simp [Except.map]

/-- **Taking directives out** fails exactly if the operators at the end are odd in number. -/
theorem extract_fails_iff :
    (∃ failure, (extract words).result = .error failure) ↔ Odd (trailingOperators words).length := by
  obtain ⟨front, hwords, hfront⟩ := exists_append_trailingOperators words
  obtain ⟨found, kept, hread⟩ := separate_of_last hfront
  have hresult : (extract words).result
      = (separate (trailingOperators words)).result.map (found ++ ·) := by
    rw [extract_eq_separate]
    conv_lhs => rw [hwords, separate_append hread]
  rw [hresult, ← separate_run_iff mem_trailingOperators]
  cases (separate (trailingOperators words)).result <;> simp [Except.map]

/-- It fails with the last word. -/
theorem extract_error_iff :
    (extract words).result = .error failure ↔ Odd (trailingOperators words).length ∧
      ∃ last, words.getLast? = some last ∧ failure = .missingTarget last := by
  have hlast : ∀ {failure}, (extract words).result = .error failure →
      ∃ last, words.getLast? = some last ∧ failure = .missingTarget last := by
    intro failure h
    obtain ⟨front, found, kept, direction, -, -, hwords, hfailure, -⟩ :=
      extract_eq_error_iff.1 (show extract words = ⟨.error failure, _⟩ by rw [← h])
    refine ⟨direction.operator, ?_, hfailure⟩
    rw [hwords]
    exact List.getLast?_concat
  constructor
  · intro h
    exact ⟨extract_fails_iff.1 ⟨failure, h⟩, hlast h⟩
  · rintro ⟨hodd, last, hwords, rfl⟩
    obtain ⟨failure, h⟩ := extract_fails_iff.2 hodd
    obtain ⟨last', hwords', rfl⟩ := hlast h
    rw [hwords] at hwords'
    cases hwords'
    exact h

end Redirection

namespace CommandLine

variable {line line' word : String} {failure : Failure}

/-- Reading a line fails where taking its directives out does. -/
theorem parse_error_iff :
    parse line = .error failure ↔
      (Redirection.extract (CommandShell.words line)).result = .error failure := by
  rw [parse_eq]
  split_ifs with hblank
  · rw [hblank, Redirection.extract_eq_separate]
    simp [Redirection.separate]
  · unfold ofWords
    rcases hread : (Redirection.extract (CommandShell.words line)).result with failure' | found
    · simp [hread, Except.map]
    · simp [hread, Except.map]

/-- **A word more**, be it an operator, is the file that was missing. -/
theorem parse_extended (h : parse line = .error failure)
    (hwords : CommandShell.words line' = CommandShell.words line ++ [word]) :
    ∃ c direction, parse line' = .ok (some c) ∧
      failure = .missingTarget (Direction.operator direction) ∧
      c.redirections.getLast? = some ⟨direction, word⟩ := by
  have hfails := parse_error_iff.1 h
  obtain ⟨front, found, kept, direction, hfront, hplain, hline, rfl, -⟩ :=
    Redirection.extract_eq_error_iff.1
      (show Redirection.extract (CommandShell.words line) = ⟨.error failure, _⟩ by rw [← hfails])
  have hread : Redirection.extract (CommandShell.words line')
      = ⟨.ok (found ++ [⟨direction, word⟩]), kept⟩ := by
    have hbefore := Redirection.extract_eq_ok_iff.2 ⟨hfront, hplain⟩
    rw [Redirection.extract_eq_separate] at hbefore ⊢
    rw [hwords, hline, List.append_assoc, Redirection.separate_append hbefore]
    show Extraction.mk ((Redirection.separate [direction.operator, word]).result.map _) _ = _
    rw [Redirection.separate_directive (Direction.ofWord?_operator direction)]
    simp [Redirection.separate, Except.map]
  refine ⟨⟨(takeMarker kept).2, found ++ [⟨direction, word⟩], (takeMarker kept).1⟩, direction, ?_,
    rfl, List.getLast?_concat⟩
  rw [parse_eq_some_iff, hwords]
  refine ⟨by simp, ?_⟩
  rw [← hwords]
  unfold ofWords
  rw [hread]

/-- **Lines that cannot be read.** Taking the directives out of a list of words fails exactly if the
    run of operators that it ends in is odd, and the failure names the last word. A line fails
    exactly if its words do. If it does, then with a word more, after a delimiter and with any gaps
    around it, it is read: the operator without a file takes the word, whatever that is. -/
theorem fails_iff_odd_run :
    (∀ words failure, (Redirection.extract words).result = .error failure ↔
      Odd (trailingOperators words).length ∧
        ∃ last, words.getLast? = some last ∧ failure = .missingTarget last) ∧
    (∀ line failure, parse line = .error failure ↔
      Odd (trailingOperators (CommandShell.words line)).length ∧
        ∃ last, (CommandShell.words line).getLast? = some last ∧ failure = .missingTarget last) ∧
    (∀ line failure, parse line = .error failure →
      ∀ (d : Char) (word tail : String), isDelimiter d = true → IsWord word → Spaced [word] tail →
        ∃ c direction, parse (line ++ String.singleton d ++ tail) = .ok (some c) ∧
          failure = .missingTarget (Direction.operator direction) ∧
          c.redirections.getLast? = some ⟨direction, word⟩) := by
  refine ⟨fun words failure => Redirection.extract_error_iff, fun line failure => ?_, ?_⟩
  · rw [parse_error_iff, Redirection.extract_error_iff]
  · intro line failure h d word tail hd hword htail
    have htaken : CommandShell.words tail = [word] :=
      htail.words_eq (List.forall_mem_singleton.2 hword)
    have hwords : CommandShell.words (line ++ String.singleton d ++ tail)
        = CommandShell.words line ++ [word] := by
      rw [words_append_delimiter hd, htaken]
    exact parse_extended h hwords

end CommandLine

namespace Sample

/-- Three operators at the end are one too many; with the marker behind them they are two
    directives. -/
theorem odd_run_extended : CommandLine.parse "sort < > <" = .error (.missingTarget "<") ∧
    ∃ c, CommandLine.parse ("sort < > <" ++ String.singleton ' ' ++ "&") = .ok (some c) ∧
      c.redirections.getLast? = some ⟨.input, "&"⟩ := by
  have hfails : CommandLine.parse "sort < > <" = .error (.missingTarget "<") := by
    have hwords : words "sort < > <" = ["sort", "<", ">", "<"] := by decide +kernel
    rw [CommandLine.fails_iff_odd_run.2.1, hwords]
    exact ⟨by decide, "<", rfl, rfl⟩
  have hword : IsWord "&" := by simp [IsWord, isDelimiter]
  obtain ⟨c, direction, hread, hfailure, htarget⟩ :=
    CommandLine.fails_iff_odd_run.2.2 _ _ hfails ' ' "&" _ (by decide) hword
      (spaced_intercalate ["&"])
  refine ⟨hfails, c, hread, ?_⟩
  rw [htarget]
  cases direction with
  | input => rfl
  | truncate | append => exact absurd hfailure (by decide)

end Sample

end CommandShell

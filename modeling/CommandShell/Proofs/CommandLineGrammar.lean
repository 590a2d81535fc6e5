import CommandShell.CommandLine
import CommandShell.Proofs.Directives
import Mathlib.Data.List.Basic

namespace CommandShell

/-!
# CommandLineGrammar — the lines that are command lines

A command line is spelled by its words, with the marker at their end if it has one, and by its
directives, each an operator and the target right after it. Words and directives are interleaved in
any way that keeps the order of both.

* `Interleaving` — the lists of words that a list of words and a list of directives can be
  interleaved to;
* `CommandLine.Spells` — the spellings of a command line;
* `CommandLine.ofWords_eq_ok_iff` — reading accepts exactly the spellings, and gives back what is
  spelled;
* `CommandLine.parse_iff_spells` — the same of lines: what is accepted, that the place of the
  directives does not matter, and that nothing is spelled by two command lines.
-/

/-- The ways to interleave words with directives, each directive in one piece. -/
inductive Interleaving : List String → List Redirection → List String → Prop
  /-- Nothing is interleaved to nothing. -/
  | nil : Interleaving [] [] []
  /-- A word comes first. -/
  | word {words redirections tokens} (word : String) :
      Interleaving words redirections tokens →
      Interleaving (word :: words) redirections (word :: tokens)
  /-- A directive comes first: its operator, then its target, whatever that is. -/
  | directive {words redirections tokens} (r : Redirection) :
      Interleaving words redirections tokens →
      Interleaving words (r :: redirections) (r.direction.operator :: r.target :: tokens)

/-- Only nothing at all is interleaved to nothing. -/
theorem Interleaving.eq_nil_iff {words tokens : List String} {redirections : List Redirection}
    (h : Interleaving words redirections tokens) :
    tokens = [] ↔ words = [] ∧ redirections = [] := by
  cases h <;> simp

/-- Without directives the tokens are the words. -/
theorem Interleaving.eq_words {words tokens : List String} (h : Interleaving words [] tokens) :
    tokens = words := by
  generalize hnone : ([] : List Redirection) = redirections at h
  induction h with
  | nil => rfl
  | word word _ ih => rw [ih hnone]
  | directive => cases hnone

/-- Words alone are interleaved to themselves. -/
theorem Interleaving.of_words (list : List String) : Interleaving list [] list := by
  induction list with
  | nil => exact .nil
  | cons first rest ih => exact .word first ih

/-! ### The one-pass reading and interleavings -/

namespace Redirection

/-- What is read without a failure interleaves the kept words with the directives, and no operator
    is kept. -/
theorem separate_interleaving {tokens words : List String} {redirections : List Redirection}
    (h : separate tokens = ⟨.ok redirections, words⟩) :
    Interleaving words redirections tokens ∧ ∀ word ∈ words, Direction.ofWord? word = none := by
  induction tokens using separate.induct generalizing words redirections with
  | case1 =>
    cases h
    exact ⟨.nil, by simp⟩
  | case2 word rest hword ih =>
    rw [separate_word hword] at h
    obtain ⟨hresult, rfl⟩ := Extraction.mk.inj h
    obtain ⟨hinter, hplain⟩ := ih (show separate rest = ⟨.ok redirections, _⟩ by rw [← hresult])
    refine ⟨.word word hinter, ?_⟩
    rintro kept (_ | ⟨_, hkept⟩)
    · exact hword
    · exact hplain kept hkept
  | case3 word direction hword =>
    rw [separate_dangling hword] at h
    cases h
  | case4 word direction target rest hword ih =>
    rw [separate_directive hword] at h
    obtain ⟨hresult, rfl⟩ := Extraction.mk.inj h
    rcases hrest : separate rest with ⟨_ | found, kept⟩
    · rw [hrest] at hresult
      cases hresult
    · rw [hrest] at hresult
      cases hresult
      obtain ⟨hinter, hplain⟩ := ih hrest
      rw [Direction.ofWord?_eq_some_iff.1 hword]
      exact ⟨.directive ⟨direction, target⟩ hinter, hplain⟩

/-- Words without an operator are read back from everything they are interleaved to, together with
    the directives. -/
theorem separate_of_interleaving {tokens words : List String} {redirections : List Redirection}
    (h : Interleaving words redirections tokens)
    (hplain : ∀ word ∈ words, Direction.ofWord? word = none) :
    separate tokens = ⟨.ok redirections, words⟩ := by
  induction h with
  | nil => rfl
  | word word _ ih =>
    have hword : Direction.ofWord? word = none := hplain word List.mem_cons_self
    have hrest := ih fun kept hkept => hplain kept (List.mem_cons_of_mem _ hkept)
    rw [separate_word hword, hrest]
  | directive r _ ih =>
    rw [separate_directive (Direction.ofWord?_operator r.direction), ih hplain]
    rfl

/-- **Directives.** The loop takes out the directives exactly of the interleavings of words that are
    no operators. -/
theorem extract_eq_ok_iff {tokens words : List String} {redirections : List Redirection} :
    extract tokens = ⟨.ok redirections, words⟩ ↔
      Interleaving words redirections tokens ∧ ∀ word ∈ words, word ∉ ["<", ">", ">>"] := by
  rw [extract_eq_separate]
  simp only [← Direction.ofWord?_eq_none_iff]
  exact ⟨separate_interleaving, fun h => separate_of_interleaving h.1 h.2⟩

end Redirection

/-! ### The marker -/

namespace CommandLine

/-- The words of the command line, with the marker at their end if it has one. -/
def marked (c : CommandLine) : List String :=
  c.words ++ if c.background then ["&"] else []

/-- The marker is taken from exactly the words it is put after, and words without a marker at their
    end are left alone. -/
theorem takeMarker_eq_iff {words kept : List String} {background : Bool} :
    takeMarker words = (background, kept) ↔
      words = kept ++ (if background then ["&"] else []) ∧
        (background = false → words.getLast? ≠ some "&") := by
  unfold takeMarker
  constructor
  · intro h
    split_ifs at h with hlast
    · obtain ⟨rfl, rfl⟩ := Prod.mk.inj h
      refine ⟨?_, by simp⟩
      rw [if_pos rfl]
      exact (List.dropLast_append_getLast? "&" hlast).symm
    · obtain ⟨rfl, rfl⟩ := Prod.mk.inj h
      exact ⟨by simp, fun _ => hlast⟩
  · rintro ⟨rfl, hlast⟩
    cases background with
    | true => simp [marker]
    | false =>
      have hnone := hlast rfl
      simp only [Bool.false_eq_true, if_false, List.append_nil] at hnone ⊢
      exact if_neg hnone

/-! ### Command lines and their spellings -/

/-- The spellings of a command line. -/
structure Spells (c : CommandLine) (tokens : List String) : Prop where
  /-- Its words, the marker included, are interleaved with its directives. -/
  interleaving : Interleaving c.marked c.redirections tokens
  /-- None of its words is an operator; targets may be. -/
  plain : ∀ word ∈ c.marked, word ∉ ["<", ">", ">>"]
  /-- Its words end in the marker only if it has one. -/
  unmarked : c.background = false → c.marked.getLast? ≠ some "&"

/-- Reading words gives a command line exactly where they spell it. -/
theorem ofWords_eq_ok_iff {tokens : List String} {c : CommandLine} :
    ofWords tokens = .ok c ↔ c.Spells tokens := by
  constructor
  · intro h
    rcases hread : Redirection.extract tokens with ⟨_ | redirections, left⟩
    · rw [ofWords, hread] at h
      cases h
    · obtain ⟨hinter, hplain⟩ := Redirection.extract_eq_ok_iff.1 hread
      rcases hmarker : takeMarker left with ⟨background, words⟩
      obtain ⟨rfl, hlast⟩ := takeMarker_eq_iff.1 hmarker
      rw [ofWords, hread] at h
      simp only [hmarker] at h
      cases h
      exact ⟨hinter, hplain, hlast⟩
  · rintro ⟨hinter, hplain, hlast⟩
    have hread := Redirection.extract_eq_ok_iff.2 ⟨hinter, hplain⟩
    have hmarker : takeMarker c.marked = (c.background, c.words) :=
      takeMarker_eq_iff.2 ⟨rfl, hlast⟩
    rw [ofWords, hread]
    simp only [hmarker]

/-- A line is read word by word, unless it has no words. -/
theorem parse_eq (line : String) :
    parse line = if CommandShell.words line = [] then .ok none
      else (ofWords (CommandShell.words line)).map some := by
  unfold parse
  cases CommandShell.words line <;> rfl

/-- Only a line without words is blank. -/
theorem parse_eq_none_iff {line : String} :
    parse line = .ok none ↔ CommandShell.words line = [] := by
  rw [parse_eq]
  split_ifs with hblank
  · simp [hblank]
  · cases ofWords (CommandShell.words line) <;> simp [Except.map, hblank]

/-- A line with words is the command line that its words give. -/
theorem parse_eq_some_iff {line : String} {c : CommandLine} :
    parse line = .ok (some c) ↔
      CommandShell.words line ≠ [] ∧ ofWords (CommandShell.words line) = .ok c := by
  rw [parse_eq]
  split_ifs with hblank
  · simp [hblank]
  · cases ofWords (CommandShell.words line) <;> simp [Except.map, hblank]

/-- Reading a line fails on an operator without a file only. -/
theorem parse_error {line : String} {failure : Failure} (h : parse line = .error failure) :
    ∃ direction : Direction, failure = .missingTarget direction.operator := by
  rw [parse_eq] at h
  split_ifs at h
  unfold ofWords at h
  rcases hread : (Redirection.extract (CommandShell.words line)).result with failure' | rs
  · simp only [hread] at h
    cases h
    exact Redirection.extract_error hread
  · simp only [hread] at h
    cases h

/-- **Lines.** A line is blank exactly if it has no words, and it is read as a command line exactly
    if its words spell that command line. Two lines that interleave the same words with the same
    directives are read alike, wherever the directives stand; and no list of words spells two
    command lines. -/
theorem parse_iff_spells :
    (∀ line, parse line = .ok none ↔ CommandShell.words line = []) ∧
    (∀ line c, parse line = .ok (some c) ↔
      CommandShell.words line ≠ [] ∧ c.Spells (CommandShell.words line)) ∧
    (∀ line line' words redirections, (∀ word ∈ words, word ∉ ["<", ">", ">>"]) →
      Interleaving words redirections (CommandShell.words line) →
      Interleaving words redirections (CommandShell.words line') → parse line = parse line') ∧
    (∀ tokens c c', Spells c tokens → Spells c' tokens → c = c') := by
  refine ⟨fun _ => parse_eq_none_iff, fun line c => ?_, ?_, ?_⟩
  · rw [parse_eq_some_iff, ofWords_eq_ok_iff]
  · intro line line' words redirections hplain hinter hinter'
    have hread := Redirection.extract_eq_ok_iff.2 ⟨hinter, hplain⟩
    have hread' := Redirection.extract_eq_ok_iff.2 ⟨hinter', hplain⟩
    have hblank : CommandShell.words line = [] ↔ CommandShell.words line' = [] := by
      rw [hinter.eq_nil_iff, hinter'.eq_nil_iff]
    have hsame : ofWords (CommandShell.words line) = ofWords (CommandShell.words line') := by
      simp only [ofWords, hread, hread']
    rw [parse_eq, parse_eq, hsame]
    exact ite_congr (propext hblank) (fun _ => rfl) (fun _ => rfl)
  · intro tokens c c' h h'
    have heq : Except.ok c = Except.ok c' :=
      (ofWords_eq_ok_iff.2 h).symm.trans (ofWords_eq_ok_iff.2 h')
    exact Except.ok.inj heq

end CommandLine

end CommandShell

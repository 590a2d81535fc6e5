import CommandShell.Proofs.DanglingOperators

namespace CommandShell

/-!
# ExtractionLoop — taking directives out, round by round

The loop that takes directives out looks at one position, which stays where it is while the list gets
shorter. Here its rounds are taken one at a time, and every access to the list may fail:

* `Redirection.Scan` — the state of the loop; `Scan.round?` and `Scan.run?` are one round and so many
  rounds, with no result where a word that is not there is read or removed;
* `Scan.round?_spec` — no round fails, and each leaves less of the list to look at;
* `Scan.run?_eq_some` — so there is a round for each word at most, and the loop gives what
  `Redirection.extractFrom` does;
* `Redirection.extraction_loop` — the loop in whole: it is the reading in one pass, and what it
  leaves of the list.
-/

namespace Redirection

/-! ### Rounds -/

/-- The state of the loop between two rounds. -/
structure Scan where
  /-- The list as it is now. -/
  words : List String
  /-- The position that is looked at next. -/
  position : Nat
  /-- The directives that were taken out. -/
  found : List Redirection

/-- What a round of the loop leads to. -/
inductive Turn where
  /-- Another round, if there is anything left to look at. -/
  | goesOn (next : Scan)
  /-- The end of the loop. -/
  | ends (extraction : Extraction)

/-- Removes the word at a position of a list, which has to be there. -/
def removeAt? (words : List String) (i : Nat) : Option (String × List String) :=
  words[i]?.map fun word => (word, words.eraseIdx i)

namespace Scan

variable {s : Scan} {word : String} {direction : Direction}

/-- A round of the loop, if every word that it reads or removes is there. -/
def round? (s : Scan) : Option Turn :=
  s.words[s.position]?.bind fun word =>
    match Direction.ofWord? word with
    | none => some (.goesOn { s with position := s.position + 1 })
    | some direction =>
      if s.position + 1 < s.words.length then
        -- The target goes first: with the operator gone it would be elsewhere.
        (removeAt? s.words (s.position + 1)).bind fun target =>
          (removeAt? target.2 s.position).map fun operator =>
            .goesOn { s with
              words := operator.2
              found := s.found ++ [⟨direction, target.1⟩] }
      else some (.ends ⟨.error (.missingTarget direction.operator), s.words⟩)

/-- Runs the loop to its end, if no round fails and there are not more rounds than allowed. -/
def run? (s : Scan) (rounds : Nat) : Option Extraction :=
  if s.position < s.words.length then
    match rounds with
    | 0 => none
    | rounds + 1 =>
      match s.round? with
      | none => none
      | some (.ends extraction) => some extraction
      | some (.goesOn next) => next.run? rounds
  else some ⟨.ok s.found, s.words⟩

/-- How many words are still to be looked at. -/
def left (s : Scan) : Nat := s.words.length - s.position

/-- What the loop gives from here on. -/
def extraction (s : Scan) : Extraction := extractFrom s.words s.position s.found

/-! ### One round -/

theorem round?_of_word (h : s.position < s.words.length)
    (hword : Direction.ofWord? s.words[s.position] = none) :
    s.round? = some (.goesOn { s with position := s.position + 1 }) := by
  simp [round?, List.getElem?_eq_getElem h, hword]

theorem round?_of_dangling (h : s.position < s.words.length)
    (hword : Direction.ofWord? s.words[s.position] = some direction)
    (hlast : ¬ s.position + 1 < s.words.length) :
    s.round? = some (.ends ⟨.error (.missingTarget direction.operator), s.words⟩) := by
  simp [round?, List.getElem?_eq_getElem h, hword, hlast]

/-- Both words of a directive are there, also the operator once the target is gone. -/
theorem round?_of_directive (h : s.position < s.words.length)
    (hword : Direction.ofWord? s.words[s.position] = some direction)
    (hfollows : s.position + 1 < s.words.length) :
    s.round? = some (.goesOn { s with
      words := (s.words.eraseIdx (s.position + 1)).eraseIdx s.position
      found := s.found ++ [⟨direction, s.words[s.position + 1]⟩] }) := by
  have hstill : s.position < (s.words.eraseIdx (s.position + 1)).length := by
    rw [List.length_eraseIdx_of_lt hfollows]
    omega
  simp [round?, removeAt?, List.getElem?_eq_getElem h, hword, hfollows,
    List.getElem?_eq_getElem hstill]

/-- **A round** never fails. It either ends the loop with what this gives, or leaves fewer words to
    look at and the same to be given in the end. -/
theorem round?_spec (h : s.position < s.words.length) :
    s.round? = some (.ends s.extraction) ∨
      ∃ next, s.round? = some (.goesOn next) ∧ next.left < s.left ∧
        next.extraction = s.extraction := by
  -- The cases are those of a round of `extractFrom`.
  unfold extraction
  rw [extractFrom, dif_pos h]
  rcases hword : Direction.ofWord? s.words[s.position] with _ | direction
  · refine .inr ⟨_, round?_of_word h hword, ?_, rfl⟩
    simp only [left]
    omega
  · by_cases hfollows : s.position + 1 < s.words.length
    · refine .inr ⟨_, round?_of_directive h hword hfollows, ?_, ?_⟩
      · simp only [left]
        rw [List.length_eraseIdx_of_lt (by rw [List.length_eraseIdx_of_lt hfollows]; omega),
          List.length_eraseIdx_of_lt hfollows]
        omega
      · simp only [dif_pos hfollows]
    · left
      rw [round?_of_dangling h hword hfollows]
      simp only [dif_neg hfollows]

/-! ### All rounds -/

/-- **The loop** comes to its end within a round for each word that is left to look at. -/
theorem run?_eq_some {rounds : Nat} (h : s.left ≤ rounds) : s.run? rounds = some s.extraction := by
  induction rounds generalizing s with
  | zero =>
    have hdone : ¬ s.position < s.words.length := by
      simp only [left] at h
      omega
    rw [run?, if_neg hdone, extraction, extractFrom, dif_neg hdone]
  | succ rounds ih =>
    by_cases hmore : s.position < s.words.length
    · rw [run?, if_pos hmore]
      rcases round?_spec hmore with hends | ⟨next, hround, hless, hsame⟩
      · simp only [hends]
      · simp only [hround]
        rw [ih (by omega), hsame]
    · rw [run?, if_neg hmore, extraction, extractFrom, dif_neg hmore]

end Scan

/-! ### The loop in whole -/

/-- Words that were kept are all kept by another pass. -/
theorem extract_of_plain {words : List String} (h : ∀ word ∈ words, word ∉ ["<", ">", ">>"]) :
    extract words = ⟨.ok [], words⟩ :=
  extract_eq_ok_iff.2 ⟨.of_words words, h⟩

/-- **Taking directives out.** Whatever the words are, the loop ends after a round for each of them
    at most, and no round reads or removes a word that is not there. It gives what one pass from left
    to right does: an operator takes the word after it, whatever that is, an operator at the end is a
    failure, and any other word is kept.

    * Without a failure, the words left are those kept, in their order. None is an operator, and with
      two for each directive they are as many as there were. So another pass finds nothing, and
      changes nothing.
    * With a failure, the words left are those kept before it and the operator at the end. -/
theorem extraction_loop (words : List String) :
    Scan.run? ⟨words, 0, []⟩ words.length = some (extract words) ∧
    extract words = separate words ∧
    (∀ found left, extract words = ⟨.ok found, left⟩ →
      Interleaving left found words ∧ (∀ word ∈ left, word ∉ ["<", ">", ">>"]) ∧
      left.length + 2 * found.length = words.length ∧ extract left = ⟨.ok [], left⟩) ∧
    (∀ failure left, extract words = ⟨.error failure, left⟩ →
      ∃ front found kept direction, Interleaving kept found front ∧
        (∀ word ∈ kept, word ∉ ["<", ">", ">>"]) ∧
        words = front ++ [Direction.operator direction] ∧
        failure = .missingTarget direction.operator ∧ left = kept ++ [direction.operator]) := by
  refine ⟨Scan.run?_eq_some (Nat.le_refl _), extract_eq_separate words, fun found left h => ?_,
    fun failure left h => extract_eq_error_iff.1 h⟩
  obtain ⟨hwords, hplain⟩ := extract_eq_ok_iff.1 h
  exact ⟨hwords, hplain, hwords.length_eq.symm, extract_of_plain hplain⟩

end Redirection

end CommandShell

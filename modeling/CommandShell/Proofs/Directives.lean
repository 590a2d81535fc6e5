import CommandShell.Redirection
import Mathlib.Tactic.Common

namespace CommandShell

/-!
# Directives — what taking the directives out of a list of words leaves

`Redirection.extract` removes an operator and its target in place and goes on at the same position.
This file shows what the loop computes:

* `Redirection.separate` — the reading in one pass: an operator takes the word after it, any other
  word is kept;
* `Redirection.extractFrom_append` — the loop invariant: the words before the position are kept, and
  what the loop still does is the one-pass reading of the words after it;
* `Redirection.extract_eq_separate` — hence the loop is the one-pass reading.
-/

namespace Direction

/-- A word that is no operator is none of the three operator words. -/
theorem ofWord?_eq_none_iff {word : String} :
    ofWord? word = none ↔ word ∉ ["<", ">", ">>"] := by
  unfold ofWord?
  split_ifs <;> simp_all

/-- The only word that asks for a direction is its operator. -/
theorem ofWord?_eq_some_iff {word : String} {direction : Direction} :
    ofWord? word = some direction ↔ word = direction.operator := by
  constructor
  · intro h
    unfold ofWord? at h
    split_ifs at h with hinput htruncate happend <;> cases h
    · exact hinput
    · exact htruncate
    · exact happend
  · rintro rfl
    cases direction <;> decide

@[simp] theorem ofWord?_operator (direction : Direction) :
    ofWord? direction.operator = some direction :=
  ofWord?_eq_some_iff.2 rfl

end Direction

namespace Redirection

/-- Reads the directives of a list of words in one pass, and keeps the words that are none. -/
def separate : List String → Extraction
  | [] => ⟨.ok [], []⟩
  | word :: rest =>
    match Direction.ofWord? word, rest with
    | none, rest => ⟨(separate rest).result, word :: (separate rest).words⟩
    | some direction, [] => ⟨.error (.missingTarget direction.operator), [word]⟩
    | some direction, target :: rest =>
      ⟨(separate rest).result.map (⟨direction, target⟩ :: ·), (separate rest).words⟩

/-- A word that is no operator is kept, and the rest is read. -/
theorem separate_word {word : String} (hword : Direction.ofWord? word = none)
    (rest : List String) :
    separate (word :: rest) = ⟨(separate rest).result, word :: (separate rest).words⟩ := by
  simp [separate, hword]

/-- An operator at the end has no target. -/
theorem separate_dangling {word : String} {direction : Direction}
    (hword : Direction.ofWord? word = some direction) :
    separate [word] = ⟨.error (.missingTarget direction.operator), [word]⟩ := by
  simp [separate, hword]

/-- An operator and the word after it are a directive, and the rest is read. -/
theorem separate_directive {word : String} {direction : Direction}
    (hword : Direction.ofWord? word = some direction) (target : String) (rest : List String) :
    separate (word :: target :: rest)
      = ⟨(separate rest).result.map (⟨direction, target⟩ :: ·), (separate rest).words⟩ := by
  simp [separate, hword]

/-! ### One round of the loop -/

/-- Past the last word the loop is over. -/
theorem extractFrom_length (kept : List String) (found : List Redirection) :
    extractFrom kept kept.length found = ⟨.ok found, kept⟩ := by
  rw [extractFrom, dif_neg (Nat.lt_irrefl _)]

/-- A word that is no operator is kept. -/
theorem extractFrom_word {word : String} (hword : Direction.ofWord? word = none)
    (kept rest : List String) (found : List Redirection) :
    extractFrom (kept ++ word :: rest) kept.length found
      = extractFrom ((kept ++ [word]) ++ rest) (kept ++ [word]).length found := by
  rw [extractFrom, dif_pos (by simp)]
  simp [hword]

/-- An operator goes away together with the word after it. -/
theorem extractFrom_directive {word : String} {direction : Direction}
    (hword : Direction.ofWord? word = some direction) (kept : List String) (target : String)
    (rest : List String) (found : List Redirection) :
    extractFrom (kept ++ word :: target :: rest) kept.length found
      = extractFrom (kept ++ rest) kept.length (found ++ [⟨direction, target⟩]) := by
  have hremove : ((kept ++ word :: target :: rest).eraseIdx (kept.length + 1)).eraseIdx kept.length
      = kept ++ rest := by
    rw [List.eraseIdx_append_of_length_le (by omega),
      List.eraseIdx_append_of_length_le (Nat.le_refl _)]
    simp
  rw [extractFrom, dif_pos (by simp)]
  simp [hword, hremove]

/-- An operator at the end ends the loop, and stays. -/
theorem extractFrom_dangling {word : String} {direction : Direction}
    (hword : Direction.ofWord? word = some direction) (kept : List String)
    (found : List Redirection) :
    extractFrom (kept ++ [word]) kept.length found
      = ⟨.error (.missingTarget direction.operator), kept ++ [word]⟩ := by
  rw [extractFrom, dif_pos (by simp)]
  simp [hword]

/-! ### The whole loop -/

/-- **Loop invariant.** With the words of `kept` behind it and the directives of `found` taken out,
    the loop still has to read `rest`, and does so in one pass. -/
theorem extractFrom_append (rest : List String) :
    ∀ (kept : List String) (found : List Redirection),
      extractFrom (kept ++ rest) kept.length found
        = ⟨(separate rest).result.map (found ++ ·), kept ++ (separate rest).words⟩ := by
  -- Each round of the loop is a case of the one-pass reading; `kept` and `found` grow with it.
  fun_induction separate rest with
  | case1 =>
    intro kept found
    rw [List.append_nil, extractFrom_length]
    simp [Except.map]
  | case2 word rest hword ih =>
    intro kept found
    rw [extractFrom_word hword, ih]
    simp
  | case3 word direction hword =>
    intro kept found
    rw [extractFrom_dangling hword]
    simp [Except.map]
  | case4 word direction target rest hword ih =>
    intro kept found
    rw [extractFrom_directive hword, ih]
    cases (separate rest).result <;> simp [Except.map]

/-- The loop that removes in place is the one-pass reading. -/
theorem extract_eq_separate (words : List String) : extract words = separate words := by
  have hloop := extractFrom_append words [] []
  rw [List.nil_append, List.length_nil] at hloop
  rw [extract, hloop]
  rcases hread : separate words with ⟨result, left⟩
  cases result <;> simp [Except.map]

/-- Taking directives out fails on an operator at the end only. -/
theorem extract_error {words : List String} {failure : Failure}
    (h : (extract words).result = .error failure) :
    ∃ direction : Direction, failure = .missingTarget direction.operator := by
  rw [extract_eq_separate] at h
  fun_induction separate words with
  | case1 => cases h
  | case2 word rest hword ih => exact ih h
  | case3 word direction hword =>
    cases h
    exact ⟨direction, rfl⟩
  | case4 word direction target rest hword ih =>
    rcases hrest : (separate rest).result with failure' | rs
    · rw [hrest] at h
      cases h
      exact ih hrest
    · rw [hrest] at h
      cases h

end Redirection

end CommandShell

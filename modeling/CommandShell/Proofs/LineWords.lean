import CommandShell.Words
import Mathlib.Data.List.Basic

namespace CommandShell

/-!
# LineWords — taking lines apart and putting them together

* `Words.runs_append` — a line is taken apart on both sides of a delimiter;
* `IsWord`, `isWord_of_mem_words` — what the words of a line look like;
* `words_of_isWord` — a word is taken apart to itself;
* `words_intercalate` — words with a delimiter between them are read back.
-/

namespace Words

variable {d : Char} {cs run : List Char}

/-! ### Runs and delimiters -/

/-- What is in front of other words is extended without regard to them. -/
theorem foldr_extend (cs : List Char) (after : List (List Char)) :
    cs.foldr extend ([], after)
      = ((cs.foldr extend ([], [])).1, (cs.foldr extend ([], [])).2 ++ after) := by
  induction cs with
  | nil => rfl
  | cons c cs ih =>
    -- A character only looks at the word in front of which it is put.
    rw [List.foldr_cons, List.foldr_cons, ih]
    unfold extend
    split_ifs <;> rfl

/-- **A delimiter** ends what is before it, and what is after it begins anew. -/
theorem runs_append (hd : isDelimiter d = true) (front back : List Char) :
    runs (front ++ d :: back) = runs front ++ runs back := by
  have hback : (d :: back).foldr extend ([], []) = ([], runs back) := by
    rw [List.foldr_cons, extend, if_pos hd, runs]
  rw [runs, List.foldr_append, hback, foldr_extend]
  -- The word that ends at the delimiter, if there is any, is complete.
  show (if (front.foldr extend ([], [])).1.isEmpty then _ else _) = (if _ then _ else _) ++ _
  split_ifs <;> rfl

/-- Characters without a delimiter among them are one run. -/
theorem foldr_extend_of_plain (hplain : ∀ c ∈ cs, isDelimiter c = false) :
    cs.foldr extend ([], []) = (cs, []) := by
  induction cs with
  | nil => rfl
  | cons c cs ih =>
    obtain ⟨hc, hrest⟩ := List.forall_mem_cons.1 hplain
    rw [List.foldr_cons, ih hrest, extend, hc]
    rfl

theorem runs_of_plain (hne : cs ≠ []) (hplain : ∀ c ∈ cs, isDelimiter c = false) :
    runs cs = [cs] := by
  rw [runs, foldr_extend_of_plain hplain]
  simp [hne]

/-- What a line begins with has no delimiter, and the runs after it are none that is empty or has
    one. -/
theorem plain_of_foldr_extend (cs : List Char) :
    (∀ c ∈ (cs.foldr extend ([], [])).1, isDelimiter c = false) ∧
      ∀ run ∈ (cs.foldr extend ([], [])).2, run ≠ [] ∧ ∀ c ∈ run, isDelimiter c = false := by
  induction cs with
  | nil => simp
  | cons c cs ih =>
    obtain ⟨hfirst, hrest⟩ := ih
    rw [List.foldr_cons, extend]
    split_ifs with hc hempty
    · exact ⟨by simp, hrest⟩
    · -- The run that the line began with is complete.
      rw [List.isEmpty_iff] at hempty
      exact ⟨by simp, List.forall_mem_cons.2 ⟨⟨hempty, hfirst⟩, hrest⟩⟩
    · exact ⟨List.forall_mem_cons.2 ⟨by simpa using hc, hfirst⟩, hrest⟩

/-- No run is empty, and none has a delimiter. -/
theorem plain_of_mem_runs (h : run ∈ runs cs) :
    run ≠ [] ∧ ∀ c ∈ run, isDelimiter c = false := by
  obtain ⟨hfirst, hrest⟩ := plain_of_foldr_extend cs
  rw [runs] at h
  split_ifs at h with hempty
  · exact hrest run h
  · rw [List.isEmpty_iff] at hempty
    rcases List.mem_cons.1 h with rfl | h
    · exact ⟨hempty, hfirst⟩
    · exact hrest run h

end Words

/-! ### Words of text -/

variable {word line : String} {list : List String}

/-- The text is a word: it is not empty, and has no delimiter. -/
def IsWord (word : String) : Prop := word ≠ "" ∧ ∀ c ∈ word.toList, isDelimiter c = false

/-- The words of a line are words. -/
theorem isWord_of_mem_words (h : word ∈ words line) : IsWord word := by
  obtain ⟨run, hrun, rfl⟩ := List.mem_map.1 h
  obtain ⟨hne, hplain⟩ := Words.plain_of_mem_runs hrun
  rw [IsWord, String.toList_ofList]
  exact ⟨by simpa using hne, hplain⟩

/-- A word is a line of one word. -/
theorem words_of_isWord (h : IsWord word) : words word = [word] := by
  have hne : word.toList ≠ [] := by simpa using h.1
  rw [words, Words.runs_of_plain hne h.2, List.map_cons, List.map_nil, String.ofList_toList]

/-- A word that another one follows after a space is taken off. -/
theorem words_append_space (front back : String) :
    words (front ++ " " ++ back) = words front ++ words back := by
  have hchars : (front ++ " " ++ back).toList = front.toList ++ ' ' :: back.toList := by simp
  rw [words, hchars, Words.runs_append (by decide), List.map_append, words, words]

/-- **Words** with a space between them are read back. -/
theorem words_intercalate (h : ∀ word ∈ list, IsWord word) :
    words (" ".intercalate list) = list := by
  induction list with
  | nil => rfl
  | cons word rest ih =>
    obtain ⟨hword, hrest⟩ := List.forall_mem_cons.1 h
    cases rest with
    | nil =>
      rw [String.intercalate_singleton]
      exact words_of_isWord hword
    | cons next rest =>
      -- The space before the next word takes the first one off.
      rw [String.intercalate_cons_cons, words_append_space, words_of_isWord hword, ih hrest,
        List.singleton_append]

end CommandShell

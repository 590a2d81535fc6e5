import CommandShell.Proofs.CommandLineGrammar

namespace CommandShell

/-!
# DanglingOperators — an operator that has no file after it

Taking the directives out of a list of words fails at an operator with nothing after it, which is
the last word then. The directives before it were taken out already, and are not put back:

* `Redirection.extract_eq_error_iff` — where it fails, and what it leaves;
* `Redirection.extract_error_words` — so the words are as they were if no directive stood before the
  operator, and fewer if one did.
-/

/-- A directive is two tokens, a word is one. -/
theorem Interleaving.length_eq {words tokens : List String} {redirections : List Redirection}
    (h : Interleaving words redirections tokens) :
    tokens.length = words.length + 2 * redirections.length := by
  induction h with
  | nil => rfl
  | word word _ ih =>
    rw [List.length_cons, ih, List.length_cons]
    omega
  | directive r _ ih =>
    rw [List.length_cons, List.length_cons, ih, List.length_cons]
    omega

namespace Redirection

variable {words left : List String} {failure : Failure}

/-- Behind tokens that read well the reading goes on. -/
theorem separate_append {front kept : List String} {found : List Redirection}
    (h : separate front = ⟨.ok found, kept⟩) (rest : List String) :
    separate (front ++ rest)
      = ⟨(separate rest).result.map (found ++ ·), kept ++ (separate rest).words⟩ := by
  fun_induction separate front generalizing found kept with
  | case1 =>
    cases h
    cases hrest : separate rest with
    | mk result words => cases result <;> simp [Except.map, hrest]
  | case2 word front hword ih =>
    obtain ⟨hresult, rfl⟩ := Extraction.mk.inj h
    rw [List.cons_append, separate_word hword,
      ih (show separate front = ⟨.ok found, _⟩ by rw [← hresult])]
    rfl
  | case3 => cases h
  | case4 word direction target front hword ih =>
    obtain ⟨hresult, rfl⟩ := Extraction.mk.inj h
    rcases hfront : (separate front).result with failure | redirections
    · rw [hfront] at hresult
      cases hresult
    · rw [hfront] at hresult
      cases hresult
      rw [List.cons_append, List.cons_append, separate_directive hword,
        ih (show separate front = ⟨.ok redirections, _⟩ by rw [← hfront])]
      cases (separate rest).result <;> rfl

/-- Reading in one pass fails at an operator behind tokens that read well, and keeps it after the
    words kept of these. -/
theorem separate_eq_error_iff :
    separate words = ⟨.error failure, left⟩ ↔
      ∃ front found kept direction, separate front = ⟨.ok found, kept⟩ ∧
        words = front ++ [Direction.operator direction] ∧
        failure = .missingTarget direction.operator ∧ left = kept ++ [direction.operator] := by
  constructor
  · intro h
    -- The operator is behind whatever comes first.
    fun_induction separate words generalizing left with
    | case1 => cases h
    | case2 word rest hword ih =>
      obtain ⟨hresult, rfl⟩ := Extraction.mk.inj h
      obtain ⟨front, found, kept, direction, hfront, rfl, rfl, hleft⟩ :=
        ih (show separate rest = ⟨.error failure, _⟩ by rw [← hresult])
      refine ⟨word :: front, found, word :: kept, direction, ?_, rfl, rfl, ?_⟩
      · rw [separate_word hword, hfront]
      · rw [hleft, List.cons_append]
    | case3 word direction hword =>
      cases h
      refine ⟨[], [], [], direction, rfl, ?_, rfl, ?_⟩
      · rw [Direction.ofWord?_eq_some_iff.1 hword, List.nil_append]
      · rw [Direction.ofWord?_eq_some_iff.1 hword, List.nil_append]
    | case4 word direction target rest hword ih =>
      obtain ⟨hresult, rfl⟩ := Extraction.mk.inj h
      rcases hrest : (separate rest).result with failure' | redirections
      · rw [hrest] at hresult
        cases hresult
        obtain ⟨front, found, kept, direction', hfront, rfl, rfl, hleft⟩ :=
          ih (show separate rest = ⟨.error failure, _⟩ by rw [← hrest])
        refine ⟨word :: target :: front, ⟨direction, target⟩ :: found, kept, direction', ?_, rfl,
          rfl, hleft⟩
        rw [separate_directive hword, hfront]
        rfl
      · rw [hrest] at hresult
        cases hresult
  · rintro ⟨front, found, kept, direction, hfront, rfl, rfl, rfl⟩
    rw [separate_append hfront, separate_dangling (Direction.ofWord?_operator direction)]
    rfl

/-- **Failure.** The loop fails exactly at an operator behind an interleaving of words that are no
    operators with directives, and leaves these words and the operator. -/
theorem extract_eq_error_iff :
    extract words = ⟨.error failure, left⟩ ↔
      ∃ front found kept direction, Interleaving kept found front ∧
        (∀ word ∈ kept, word ∉ ["<", ">", ">>"]) ∧
        words = front ++ [Direction.operator direction] ∧
        failure = .missingTarget direction.operator ∧ left = kept ++ [direction.operator] := by
  simp only [← and_assoc, ← extract_eq_ok_iff, extract_eq_separate]
  simp only [and_assoc, separate_eq_error_iff]

/-- **What a failure leaves.** The words without an operator and the dangling one are left, and the
directives before it are gone. So the words are as they were exactly if there was none. -/
theorem extract_error_words (h : (extract words).result = .error failure) :
    ∃ front found kept direction, Interleaving kept found front ∧
      (∀ word ∈ kept, word ∉ ["<", ">", ">>"]) ∧
      words = front ++ [Direction.operator direction] ∧
      failure = .missingTarget direction.operator ∧
      (extract words).words = kept ++ [direction.operator] ∧
      ((extract words).words = words ↔ found = []) := by
  obtain ⟨front, found, kept, direction, hfront, hplain, hwords, rfl, hleft⟩ :=
    extract_eq_error_iff.1 (show extract words = ⟨.error failure, _⟩ by rw [← h])
  refine ⟨front, found, kept, direction, hfront, hplain, hwords, rfl, hleft, ?_⟩
  rw [hleft, hwords, List.append_left_inj]
  constructor
  · -- Each directive that is gone makes two words fewer.
    rintro rfl
    have hlength := hfront.length_eq
    exact List.length_eq_zero_iff.1 (by omega)
  · rintro rfl
    exact hfront.eq_words.symm

end Redirection

namespace Sample

/-- Behind two directives an operator is left with the words alone. -/
theorem dangling_after_directives :
    (Redirection.extract ["sort", "<", "in", "-r", ">>", "out", ">"]).result
      = .error (.missingTarget ">") ∧
    ∃ front found kept direction, Interleaving kept found front ∧
      ["sort", "<", "in", "-r", ">>", "out", ">"] = front ++ [Direction.operator direction] ∧
      (Redirection.extract ["sort", "<", "in", "-r", ">>", "out", ">"]).words
        = kept ++ [direction.operator] := by
  have hfails : (Redirection.extract ["sort", "<", "in", "-r", ">>", "out", ">"]).result
      = .error (.missingTarget ">") := by
    rw [Redirection.extract_eq_separate]
    rfl
  obtain ⟨front, found, kept, direction, hfront, -, hwords, -, hleft, -⟩ :=
    Redirection.extract_error_words hfails
  exact ⟨hfails, front, found, kept, direction, hfront, hwords, hleft⟩

/-- The directive before the operator is lost, so the words are not as they were. -/
theorem lost_directive :
    (Redirection.extract ["cmd", ">", "a", ">"]).result = .error (.missingTarget ">") ∧
    (Redirection.extract ["cmd", ">", "a", ">"]).words = ["cmd", ">"] ∧
    (Redirection.extract ["cmd", ">", "a", ">"]).words ≠ ["cmd", ">", "a", ">"] := by
  rw [Redirection.extract_eq_separate]
  exact ⟨rfl, rfl, by decide⟩

end Sample

end CommandShell

import CommandShell.Proofs.MovedOutput

namespace CommandShell

/-!
# SpacedWords — words with gaps between them, and the calls they are

A line may have any delimiters before its first word and after its last one, and has at least one
between two words. Such a line is taken apart to its words again. Words that are no operators, the
last one of which is not the marker, are nothing but the name and the arguments of a command, so
that a line of them does what calling the command does:

* `Spaced` — the lines that words make up;
* `Spaced.words_eq`, `spaced_intercalate` — taking such a line apart, and one with a single space
  in each gap;
* `CommandLine.parse_of_plain` — how plain words are read;
* `Shell.execute_eq_call` — running a line and calling a command.
-/

/-! ### Gaps -/

/-- The text is a gap: there are delimiters in it, if anything. -/
def IsGap (gap : String) : Prop := ∀ c ∈ gap.toList, isDelimiter c = true

/-- The lines that words make up: any gap before the first word and after the last one, and at least
    a delimiter after each word that another one follows. -/
inductive Spaced : List String → String → Prop
  /-- Without words there is a gap only. -/
  | blank {gap : String} : IsGap gap → Spaced [] gap
  /-- The last word. -/
  | last {before word after : String} : IsGap before → IsGap after →
      Spaced [word] (before ++ word ++ after)
  /-- A word that another one follows. -/
  | cons {before word next line : String} {rest : List String} {d : Char} : IsGap before →
      isDelimiter d = true → Spaced (next :: rest) line →
      Spaced (word :: next :: rest) (before ++ word ++ String.singleton d ++ line)

namespace Words

variable {gap : List Char}

/-- A gap holds no word. -/
theorem runs_of_gap (hgap : ∀ c ∈ gap, isDelimiter c = true) : runs gap = [] := by
  induction gap with
  | nil => rfl
  | cons d gap ih =>
    obtain ⟨hd, hrest⟩ := List.forall_mem_cons.1 hgap
    rw [← List.nil_append (d :: gap), runs_append hd, ih hrest]
    rfl

/-- A gap in front of a line is passed over. -/
theorem runs_gap_append (hgap : ∀ c ∈ gap, isDelimiter c = true) (cs : List Char) :
    runs (gap ++ cs) = runs cs := by
  induction gap with
  | nil => rfl
  | cons d gap ih =>
    obtain ⟨hd, hrest⟩ := List.forall_mem_cons.1 hgap
    have hfront : d :: gap ++ cs = [] ++ d :: (gap ++ cs) := rfl
    rw [hfront, runs_append hd, ih hrest]
    rfl

/-- So is one at its end. -/
theorem runs_append_gap (hgap : ∀ c ∈ gap, isDelimiter c = true) (cs : List Char) :
    runs (cs ++ gap) = runs cs := by
  cases gap with
  | nil => rw [List.append_nil]
  | cons d gap =>
    obtain ⟨hd, hrest⟩ := List.forall_mem_cons.1 hgap
    rw [runs_append hd, runs_of_gap hrest, List.append_nil]

end Words

section

variable {gap line : String} {list : List String}

theorem words_of_gap (hgap : IsGap gap) : words gap = [] := by
  rw [words, Words.runs_of_gap hgap, List.map_nil]

theorem words_gap_append (hgap : IsGap gap) (line : String) :
    words (gap ++ line) = words line := by
  rw [words, words, String.toList_append, Words.runs_gap_append hgap]

theorem words_append_gap (hgap : IsGap gap) (line : String) :
    words (line ++ gap) = words line := by
  rw [words, words, String.toList_append, Words.runs_append_gap hgap]

/-- A line is taken apart on both sides of a delimiter. -/
theorem words_append_delimiter {d : Char} (hd : isDelimiter d = true) (front back : String) :
    words (front ++ String.singleton d ++ back) = words front ++ words back := by
  have hchars : (front ++ String.singleton d ++ back).toList
      = front.toList ++ d :: back.toList := by simp
  rw [words, hchars, Words.runs_append hd, List.map_append, words, words]

/-- **Words** with gaps between them are read back, whatever the gaps are. -/
theorem Spaced.words_eq (h : Spaced list line) (hwords : ∀ word ∈ list, IsWord word) :
    words line = list := by
  induction h with
  | blank hgap => exact words_of_gap hgap
  | last hbefore hafter =>
    obtain ⟨hword, -⟩ := List.forall_mem_cons.1 hwords
    rw [words_append_gap hafter, words_gap_append hbefore, words_of_isWord hword]
  | cons hbefore hd _ ih =>
    obtain ⟨hword, hrest⟩ := List.forall_mem_cons.1 hwords
    rw [words_append_delimiter hd, words_gap_append hbefore, words_of_isWord hword, ih hrest,
      List.singleton_append]

/-- One space between neighbours, and nothing else, is a way to make up a line. -/
theorem spaced_intercalate (list : List String) : Spaced list (" ".intercalate list) := by
  have hnone : IsGap "" := by simp [IsGap]
  induction list with
  | nil => exact .blank hnone
  | cons word rest ih =>
    cases rest with
    | nil =>
      have hline : " ".intercalate [word] = "" ++ word ++ "" := by simp
      rw [hline]
      exact .last hnone hnone
    | cons next rest =>
      have hline : " ".intercalate (word :: next :: rest)
          = "" ++ word ++ String.singleton ' ' ++ " ".intercalate (next :: rest) := by
        rw [String.intercalate_cons_cons, String.empty_append]
        rfl
      rw [hline]
      exact .cons hnone (by decide) ih

end

/-! ### Plain words -/

namespace CommandLine

variable {line : String} {list : List String}

/-- Plain words are read as what they are: there is no directive among them, and no marker at their
    end. -/
theorem parse_of_plain (hline : CommandShell.words line = list) (hne : list ≠ [])
    (hplain : ∀ word ∈ list, word ∉ ["<", ">", ">>"]) (hlast : list.getLast? ≠ some "&") :
    parse line = .ok (some ⟨list, [], false⟩) := by
  have hmarked : marked ⟨list, [], false⟩ = list := List.append_nil list
  have hspells : Spells ⟨list, [], false⟩ list := by
    refine ⟨?_, ?_, fun _ => ?_⟩
    · rw [hmarked]
      exact .of_words list
    · rwa [hmarked]
    · rwa [hmarked]
  rw [parse_eq_some_iff, hline]
  exact ⟨hne, ofWords_eq_ok_iff.2 hspells⟩

end CommandLine

/-! ### Lines and calls -/

namespace Shell

variable {line name : String} {arguments : List String}

/-- A line that is read as a command without directives calls the command. -/
theorem execute_of_parse_call
    (hread : CommandLine.parse line = .ok (some ⟨name :: arguments, [], false⟩)) (sh : Shell) :
    sh.execute line {} = sh.call name arguments := by
  have hstarts : sh.Starts line ⟨name, arguments, [], false, sh.host.world.files, {}⟩ :=
    ⟨hread, .nil⟩
  -- No file has been opened, so the command has the shell's own streams and its caller gets them.
  rw [execute_of_starts hstarts]
  rfl

/-- **Calls.** A command is called by name as it is by a line of its name and its arguments, with a
    space between neighbours or with any other gaps: result, streams and shell are the same. -/
theorem execute_eq_call (hwords : ∀ word ∈ name :: arguments, IsWord word)
    (hplain : ∀ word ∈ name :: arguments, word ∉ ["<", ">", ">>"])
    (hlast : (name :: arguments).getLast? ≠ some "&") (sh : Shell) :
    sh.execute (" ".intercalate (name :: arguments)) {} = sh.call name arguments ∧
      ∀ line, Spaced (name :: arguments) line → sh.execute line {} = sh.call name arguments := by
  have hcall : ∀ line, Spaced (name :: arguments) line →
      sh.execute line {} = sh.call name arguments := fun line hline =>
    execute_of_parse_call
      (CommandLine.parse_of_plain (hline.words_eq hwords) (by simp) hplain hlast) sh
  exact ⟨hcall _ (spaced_intercalate _), hcall⟩

end Shell

namespace Sample

/-- A line with gaps of all kinds, and a marker that is not at its end. -/
theorem spaced_echo : Spaced ["echo", "&", "hello"] "\r echo\n  & hello \r" := by
  have hline : "\r echo\n  & hello \r"
      = "\r " ++ "echo" ++ String.singleton '\n'
        ++ ("  " ++ "&" ++ String.singleton ' ' ++ ("" ++ "hello" ++ " \r")) := by decide
  have hgap : ∀ gap ∈ ["", "  ", "\r ", " \r"], IsGap gap := by
    simp [IsGap, isDelimiter]
  rw [hline]
  refine .cons (hgap _ (by simp)) (by decide) (.cons (hgap _ (by simp)) (by decide) ?_)
  exact .last (hgap _ (by simp)) (hgap _ (by simp))

/-- It is the call of `echo` with the marker as an argument, which is said. -/
theorem echo_called :
    shell.execute "\r echo\n  & hello \r" {} = shell.call "echo" ["&", "hello"] ∧
      (shell.call "echo" ["&", "hello"]).shell.host.world.terminal.output.written
        = Bytes.ofString "& hello \n" := by
  have hwords : ∀ word ∈ ["echo", "&", "hello"], IsWord word := by
    simp [IsWord, isDelimiter]
  have hcall := Shell.execute_eq_call hwords (by simp) (by simp) shell
  exact ⟨hcall.2 _ spaced_echo, by decide +kernel⟩

end Sample

end CommandShell

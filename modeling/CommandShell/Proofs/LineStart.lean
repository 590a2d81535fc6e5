import CommandShell.Proofs.CommandFailure
import CommandShell.Proofs.CommandLineGrammar
import CommandShell.Proofs.OpenedDirectives

namespace CommandShell

/-!
# LineStart — lines that end before their command starts

A line is read, its files are opened, and only then its command starts. Where it ends before that,
the shell keeps its session and its streams, and only the files that did open may have changed:

* `Shell.executeParsed_of_opens`, `Shell.executeParsed_of_refused` — running a line once its files
  are opened, and where one of them is not;
* `Shell.executeParsed_cases` — one of the two happens to every line;
* `Shell.execute_missingTarget`, `Shell.execute_refused` — the two failures of a line itself, traced
  back to where they come from;
* `Shell.execute_without_command` — what lines do that end before their command starts.
-/

/-- The shell with other files, and nothing else changed. -/
def Shell.withFiles (sh : Shell) (files : FileSystem) : Shell :=
  { sh with host := sh.host.withFiles files }

/-- Directives that open in the files of a shell, read from its session's directory: the files
    afterwards and the opened ones. -/
def Shell.Opens (sh : Shell) (redirections : List Redirection) (files : FileSystem)
    (opened : OpenedFiles) : Prop :=
  Redirection.Opens sh.host.mask sh.host.directory sh.session.directory sh.host.world.files {}
    redirections files opened

/-- The first directives open, and the one after them does not, for the reason given. -/
structure Shell.Refuses (sh : Shell) (redirections : List Redirection) (files : FileSystem)
    (refused : Redirection) (cause : IoError) : Prop where
  /-- The directives before the refused one open, and leave these files. -/
  opened_before : ∃ before after opened, redirections = before ++ refused :: after ∧
    sh.Opens before files opened
  /-- On the files they leave, its file cannot be opened. -/
  not_opened :
    refused.openIn sh.host.mask sh.host.directory sh.session.directory files = .error cause

namespace Shell

variable {sh : Shell} {line : String} {io : Streams}

@[simp] theorem withFiles_session (sh : Shell) (files : FileSystem) :
    (sh.withFiles files).session = sh.session := rfl

@[simp] theorem withFiles_host (sh : Shell) (files : FileSystem) :
    (sh.withFiles files).host = sh.host.withFiles files := rfl

/-! ### Lines that were read -/

/-- Once the files of a line are opened, its command runs on them. -/
theorem executeParsed_of_opens {c : CommandLine} {files : FileSystem} {opened : OpenedFiles}
    (h : sh.Opens c.redirections files opened) (io : Streams) :
    sh.executeParsed c io =
      match c.name? with
      | none => ⟨.ok 0, io, sh.withFiles files⟩
      | some name =>
        let o := (sh.withFiles files).invoke name c.arguments c.background (opened.streams io)
        ⟨o.result.mapError CommandError.classify, opened.restore io o.streams, o.shell⟩ := by
  unfold executeParsed
  rw [Redirection.openAll_of_opens h]
  rfl

/-- Where a file cannot be opened, nothing of the line runs. -/
theorem executeParsed_of_refused {c : CommandLine} {files : FileSystem} {r : Redirection}
    {cause : IoError} (h : sh.Refuses c.redirections files r cause) (io : Streams) :
    sh.executeParsed c io = ⟨.error (r.refusal cause), io, sh.withFiles files⟩ := by
  obtain ⟨⟨before, after, opened, hsplit, hopens⟩, hrefused⟩ := h
  unfold executeParsed
  rw [hsplit, Redirection.openAll_of_refused hopens hrefused]
  rfl

/-- The files of a line are all opened, or there is a first that is not. -/
theorem executeParsed_cases (sh : Shell) (c : CommandLine) :
    (∃ files opened, sh.Opens c.redirections files opened) ∨
      ∃ files r cause, sh.Refuses c.redirections files r cause := by
  rcases Redirection.openAll_cases sh.session.directory sh.host c.redirections with
    ⟨files, opened, hopens, -⟩ | ⟨before, r, after, files, opened, cause, hsplit, hopens, hr, -⟩
  · exact .inl ⟨files, opened, hopens⟩
  · exact .inr ⟨files, r, cause, ⟨before, after, opened, hsplit, hopens⟩, hr⟩

/-- Where a line fails before its command starts, the reason is a file that cannot be opened. -/
theorem executeParsed_error {c : CommandLine} {f : Failure}
    (h : (sh.executeParsed c io).result = .error f) (hline : f.IsOfLine) :
    ∃ files r cause, sh.Refuses c.redirections files r cause ∧ f = r.refusal cause := by
  rcases executeParsed_cases sh c with ⟨files, opened, hopens⟩ | ⟨files, r, cause, hrefused⟩
  · -- The command has run, and no command reports such a failure.
    exfalso
    rw [executeParsed_of_opens hopens] at h
    rcases hname : c.name? with _ | name
    · rw [hname] at h
      cases h
    · simp only [hname] at h
      rcases hresult : ((sh.withFiles files).invoke name c.arguments c.background
        (opened.streams io)).result with e | code
      · rw [hresult] at h
        cases h
        exact invoke_error hresult hline
      · rw [hresult] at h
        cases h
  · rw [executeParsed_of_refused hrefused] at h
    cases h
    exact ⟨files, r, cause, hrefused, rfl⟩

/-! ### Lines as text -/

/-- A line that is read is run as what it is read as. -/
theorem execute_of_parse {c : CommandLine} (h : CommandLine.parse line = .ok (some c))
    (io : Streams) : sh.execute line io = sh.executeParsed c io := by
  unfold execute
  rw [h]

/-- A line that cannot be read touches nothing. -/
theorem execute_of_parse_error {f : Failure} (h : CommandLine.parse line = .error f)
    (sh : Shell) (io : Streams) : sh.execute line io = ⟨.error f, io, sh⟩ := by
  unfold execute
  rw [h]

/-- Nor does a blank one. -/
theorem execute_of_blank (h : CommandLine.parse line = .ok none) (sh : Shell) (io : Streams) :
    sh.execute line io = ⟨.ok 0, io, sh⟩ := by
  unfold execute
  rw [h]

/-- An operator without a file is found while the line is read. -/
theorem execute_missingTarget {operator : String}
    (h : (sh.execute line io).result = .error (.missingTarget operator)) :
    CommandLine.parse line = .error (.missingTarget operator) := by
  rcases hparse : CommandLine.parse line with f | _ | c
  · rw [execute_of_parse_error hparse] at h
    cases h
    rfl
  · rw [execute_of_blank hparse] at h
    cases h
  · rw [execute_of_parse hparse] at h
    obtain ⟨files, r, cause, -, hf⟩ := executeParsed_error h trivial
    rcases r with ⟨_ | _ | _, target⟩ <;> cases hf

/-- A file that cannot be opened is that of a directive of the line. -/
theorem execute_refused {f : Failure} (h : (sh.execute line io).result = .error f)
    (hline : f.IsOfLine) (hf : ∀ operator, f ≠ .missingTarget operator) :
    ∃ c files r cause, CommandLine.parse line = .ok (some c) ∧
      sh.Refuses c.redirections files r cause ∧ f = r.refusal cause := by
  rcases hparse : CommandLine.parse line with f' | _ | c
  · rw [execute_of_parse_error hparse] at h
    cases h
    obtain ⟨direction, rfl⟩ := CommandLine.parse_error hparse
    exact absurd rfl (hf direction.operator)
  · rw [execute_of_blank hparse] at h
    cases h
  · rw [execute_of_parse hparse] at h
    obtain ⟨files, r, cause, hrefused, rfl⟩ := executeParsed_error h hline
    exact ⟨c, files, r, cause, rfl, hrefused, rfl⟩

/-- **Lines that end before their command starts** leave no trace but the files that they opened:

* an operator without a file ends the line before anything is opened, in whatever shell it is run;
* a file that cannot be opened ends it with the files as the directives before that one left them,
  read from the session's directory before the line, whatever the command is;
* a line without a command succeeds, with the files as its directives left them.

The streams are as they were, and so is the shell, but for its files. -/
theorem execute_without_command (sh : Shell) (line : String) (io : Streams) :
    (∀ operator, (sh.execute line io).result = .error (.missingTarget operator) →
      ∀ sh' io', Shell.execute sh' line io' = ⟨.error (.missingTarget operator), io', sh'⟩) ∧
    (∀ f, (sh.execute line io).result = .error f →
      (∃ path cause, f = .redirectInput path cause ∨ f = .redirectOutput path cause) →
      ∃ c files r cause, CommandLine.parse line = .ok (some c) ∧
        sh.Refuses c.redirections files r cause ∧ f = r.refusal cause ∧
        ∀ words background io', sh.executeParsed { c with words, background } io'
          = ⟨.error f, io', sh.withFiles files⟩) ∧
    (∀ c files r cause, CommandLine.parse line = .ok (some c) →
      sh.Refuses c.redirections files r cause →
      sh.execute line io = ⟨.error (r.refusal cause), io, sh.withFiles files⟩) ∧
    (CommandLine.parse line = .ok none → sh.execute line io = ⟨.ok 0, io, sh⟩) ∧
    (∀ c files opened, CommandLine.parse line = .ok (some c) → c.words = [] →
      sh.Opens c.redirections files opened →
      sh.execute line io = ⟨.ok 0, io, sh.withFiles files⟩) := by
  refine ⟨?_, ?_, ?_, fun hblank => execute_of_blank hblank sh io, ?_⟩
  · intro operator h sh' io'
    exact execute_of_parse_error (execute_missingTarget h) sh' io'
  · rintro f h ⟨path, reason, hf⟩
    have hline : f.IsOfLine := by rcases hf with rfl | rfl <;> trivial
    have hother : ∀ operator, f ≠ .missingTarget operator := by
      rintro operator rfl
      rcases hf with hf | hf <;> cases hf
    obtain ⟨c, files, r, cause, hparse, hrefused, rfl⟩ := execute_refused h hline hother
    refine ⟨c, files, r, cause, hparse, hrefused, rfl, ?_⟩
    intro words background io'
    have hsame :
        sh.Refuses ({ c with words, background } : CommandLine).redirections files r cause :=
      hrefused
    exact executeParsed_of_refused hsame io'
  · intro c files r cause hparse hrefused
    rw [execute_of_parse hparse, executeParsed_of_refused hrefused]
  · intro c files opened hparse hwords hopens
    have hname : c.name? = none := by rw [CommandLine.name?, hwords, List.head?_nil]
    rw [execute_of_parse hparse, executeParsed_of_opens hopens, hname]

end Shell

end CommandShell

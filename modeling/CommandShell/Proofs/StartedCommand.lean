import CommandShell.Proofs.LineStart

namespace CommandShell

/-!
# StartedCommand — the command that a line starts

A line that is read, whose files are all opened and that has words starts a command. Everything else
that a line can do it does without one:

* `StartedCommand` — a command, and the files that its line opened for it;
* `Shell.Starts` — whether a line starts it; no line starts two;
* `Shell.execute_of_starts` — the outcome of such a line is that of its command;
  `Shell.outcomeOf_builtin`, `Shell.outcomeOf_program` are the two kinds of commands;
* `Shell.StartsNothing`, `Shell.starts_or_not` — every other line, and what comes of it;
* `Shell.execute_congr` — only the words of a line matter.
-/

/-- A command as a line starts it. -/
structure StartedCommand where
  /-- The name it is called by. -/
  name : String
  /-- Its arguments. -/
  arguments : List String
  /-- The directives of the line. -/
  redirections : List Redirection
  /-- Whether the line has the marker at its end. -/
  background : Bool
  /-- The files that the directives left. -/
  files : FileSystem
  /-- The opened ones that take the place of its streams. -/
  opened : OpenedFiles

namespace Shell

variable {sh : Shell} {line line' : String} {io : Streams} {c c' : StartedCommand}

/-- The line starts the command: it is read, and the files of its directives are opened. -/
structure Starts (sh : Shell) (line : String) (c : StartedCommand) : Prop where
  /-- The line is read as the command and its directives. -/
  reads : CommandLine.parse line
    = .ok (some ⟨c.name :: c.arguments, c.redirections, c.background⟩)
  /-- The directives open. -/
  opens : sh.Opens c.redirections c.files c.opened

/-- The ways in which a line starts no command: what comes of it, and the files that it leaves. -/
inductive StartsNothing (sh : Shell) (line : String) :
    Except Failure ExitCode → FileSystem → Prop
  /-- The line cannot be read. -/
  | unreadable {f : Failure} : CommandLine.parse line = .error f →
      StartsNothing sh line (.error f) sh.host.world.files
  /-- There is nothing on it. -/
  | blank : CommandLine.parse line = .ok none → StartsNothing sh line (.ok 0) sh.host.world.files
  /-- A file of its directives cannot be opened. -/
  | refused {c : CommandLine} {files : FileSystem} {r : Redirection} {cause : IoError} :
      CommandLine.parse line = .ok (some c) → sh.Refuses c.redirections files r cause →
      StartsNothing sh line (.error (r.refusal cause)) files
  /-- There are directives on it and nothing else. -/
  | wordless {redirections : List Redirection} {background : Bool} {files : FileSystem}
      {opened : OpenedFiles} : CommandLine.parse line = .ok (some ⟨[], redirections, background⟩) →
      sh.Opens redirections files opened → StartsNothing sh line (.ok 0) files

/-- What a command does on its files, or else on the streams of the caller. -/
def outcomeOf (sh : Shell) (c : StartedCommand) (io : Streams) : Outcome CommandError :=
  (sh.withFiles c.files).invoke c.name c.arguments c.background (c.opened.streams io)

/-- A built-in command is called by its name. -/
theorem ofName?_name (b : Builtin) : Builtin.ofName? b.name = some b := by
  cases b <;> rfl

theorem eq_name_of_ofName? {name : String} {b : Builtin} (h : Builtin.ofName? name = some b) :
    name = b.name := by
  have hfound := List.find?_some h
  simpa using (of_decide_eq_true hfound).symm

/-- What a built-in command does, it does on the files that its line opened. -/
theorem outcomeOf_builtin {b : Builtin} (h : Builtin.ofName? c.name = some b) (sh : Shell)
    (io : Streams) :
    sh.outcomeOf c io = b.run c.arguments (c.opened.streams io) (sh.withFiles c.files) := by
  unfold outcomeOf invoke
  rw [h]

/-- So does a program. -/
theorem outcomeOf_program (h : Builtin.ofName? c.name = none) (sh : Shell) (io : Streams) :
    sh.outcomeOf c io = ProgramCommand.run ⟨c.name, c.arguments, c.background⟩
      (c.opened.streams io) (sh.withFiles c.files) := by
  unfold outcomeOf invoke
  rw [h]

/-- Directives open in one way only. -/
theorem Opens.unique {redirections : List Redirection} {files files' : FileSystem}
    {opened opened' : OpenedFiles} (h : sh.Opens redirections files opened)
    (h' : sh.Opens redirections files' opened') : files = files' ∧ opened = opened' := by
  have heq : (Except.ok opened, sh.host.withFiles files)
      = ((Except.ok opened' : Except Failure OpenedFiles), sh.host.withFiles files') :=
    (Redirection.openAll_of_opens h).symm.trans (Redirection.openAll_of_opens h')
  obtain ⟨hopened, hfiles⟩ := Prod.mk.inj heq
  exact ⟨congrArg (·.world.files) hfiles, Except.ok.inj hopened⟩

/-- Directives that open do not stop at one of them. -/
theorem Refuses.not_opens {redirections : List Redirection} {files files' : FileSystem}
    {refused : Redirection} {cause : IoError} {opened : OpenedFiles}
    (h : sh.Refuses redirections files refused cause) : ¬ sh.Opens redirections files' opened := by
  obtain ⟨⟨before, after, opened', rfl, hbefore⟩, hrefused⟩ := h
  intro hopens
  have hboth := Redirection.openAll_of_opens hopens
  rw [Redirection.openAll_of_refused hbefore hrefused] at hboth
  cases hboth

/-- No line starts two commands. -/
theorem Starts.unique (h : sh.Starts line c) (h' : sh.Starts line c') : c = c' := by
  obtain ⟨name, arguments, redirections, background, files, opened⟩ := c
  obtain ⟨name', arguments', redirections', background', files', opened'⟩ := c'
  obtain ⟨hwords, rfl, rfl⟩ :=
    CommandLine.mk.inj (Option.some.inj (Except.ok.inj (h.reads.symm.trans h'.reads)))
  obtain ⟨rfl, rfl⟩ := List.cons.inj hwords
  obtain ⟨rfl, rfl⟩ := h.opens.unique h'.opens
  rfl

/-- **A line that starts a command** has the outcome of the command: its failure is classified, and
    where a file stands in for a stream, that stream is as before. -/
theorem execute_of_starts (h : sh.Starts line c) (io : Streams) :
    sh.execute line io =
      ⟨(sh.outcomeOf c io).result.mapError CommandError.classify,
        c.opened.restore io (sh.outcomeOf c io).streams, (sh.outcomeOf c io).shell⟩ := by
  have hopens : sh.Opens (⟨c.name :: c.arguments, c.redirections, c.background⟩ :
      CommandLine).redirections c.files c.opened := h.opens
  rw [execute_of_parse h.reads, executeParsed_of_opens hopens]
  rfl

/-- A line that starts nothing starts no command. -/
theorem StartsNothing.not_starts {result : Except Failure ExitCode} {files : FileSystem}
    (h : sh.StartsNothing line result files) (c : StartedCommand) : ¬ sh.Starts line c := by
  rintro ⟨hparse, hopens⟩
  cases h with
  | unreadable hread | blank hread | wordless hread =>
    rw [hparse] at hread
    cases hread
  | refused hread hrefused =>
    rw [hparse] at hread
    cases hread
    exact hrefused.not_opens hopens

/-- It leaves the streams as they were, and the shell but for its files. -/
theorem StartsNothing.execute_eq {result : Except Failure ExitCode} {files : FileSystem}
    (h : sh.StartsNothing line result files) (io : Streams) :
    sh.execute line io = ⟨result, io, sh.withFiles files⟩ := by
  cases h with
  | unreadable hread => exact execute_of_parse_error hread sh io
  | blank hread => exact execute_of_blank hread sh io
  | refused hread hrefused => rw [execute_of_parse hread, executeParsed_of_refused hrefused]
  | wordless hread hopens =>
    rw [execute_of_parse hread, executeParsed_of_opens hopens]
    rfl

/-- **Every line** starts a command or nothing. -/
theorem starts_or_not (sh : Shell) (line : String) :
    (∃ c, sh.Starts line c) ∨ ∃ result files, sh.StartsNothing line result files := by
  rcases hparse : CommandLine.parse line with f | _ | ⟨words, redirections, background⟩
  · exact .inr ⟨_, _, .unreadable hparse⟩
  · exact .inr ⟨_, _, .blank hparse⟩
  · rcases executeParsed_cases sh ⟨words, redirections, background⟩ with
      ⟨files, opened, hopens⟩ | ⟨files, r, cause, hrefused⟩
    · rcases words with _ | ⟨name, arguments⟩
      · exact .inr ⟨_, _, .wordless hparse hopens⟩
      · exact .inl ⟨⟨name, arguments, redirections, background, files, opened⟩, hparse, hopens⟩
    · exact .inr ⟨_, _, .refused hparse hrefused⟩

/-- Lines with the same words do the same. -/
theorem execute_congr (h : words line = words line') (sh : Shell) (io : Streams) :
    sh.execute line io = sh.execute line' io := by
  unfold execute
  rw [CommandLine.parse_eq, CommandLine.parse_eq, h]

end Shell

end CommandShell

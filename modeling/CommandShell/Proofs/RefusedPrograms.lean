import CommandShell.Proofs.RedirectedOutput
import CommandShell.Proofs.SpawnedPrograms

namespace CommandShell

/-!
# RefusedPrograms — which programs end the session when they cannot be run

A built-in command that fails costs its own line only. So does a program that the system refuses to
run, as long as the reason is one of four:

* `CommandError.isFatal_of_isIo` — failed requests of commands do not end the session;
* `Host.spawn_eq_error_iff` — why a child is refused;
* `Shell.RefusesChild` — the lines whose program is refused;
  `Shell.RefusesChild.isFatal_iff` — which of the reasons end the session;
* `Shell.execute_fatal_iff` — the lines that end the session.
-/

/-- A failed request of a command does not end the session. -/
theorem CommandError.isFatal_of_isIo {e : CommandError} (h : e.IsIo) :
    e.classify.isFatal = false := by
  obtain ⟨cause, contexts⟩ := e
  obtain ⟨error, hcause⟩ := h
  cases hcause
  rfl

/-- **A child** is refused because of a NUL byte in its text, or by the system. -/
theorem Host.spawn_eq_error_iff {h : Host} {request : Launch} {cause : IoError} :
    h.spawn request = .error cause ↔
      (request.hasNul = true ∧ cause = .nulInCommand) ∨
        (request.hasNul = false ∧ ∃ reason, h.start request = .error reason ∧
          cause = .os reason) := by
  unfold spawn
  cases hnul : request.hasNul with
  | true => simp [eq_comm]
  | false =>
    rcases hstart : h.start request with reason | ended <;> simp [eq_comm]

/-- A refusal ends the session unless it says that the program cannot be loaded. -/
theorem ProgramCommand.refusal_isFatal (c : ProgramCommand) (cause : IoError) :
    (c.refusal cause).isFatal = !isLoadFailure cause := by
  unfold refusal
  cases isLoadFailure cause <;> rfl

/-- A file that cannot be opened ends the session. -/
theorem Redirection.refusal_isFatal (r : Redirection) (cause : IoError) :
    (r.refusal cause).isFatal = true := by
  obtain ⟨_ | _ | _, target⟩ := r <;> rfl

namespace Shell

variable {sh : Shell} {line : String} {io : Streams} {c : StartedCommand} {cause : IoError}
  {failure : Failure}

/-- The line starts a program, and the system refuses to make the child for it. -/
structure RefusesChild (sh : Shell) (line : String) (io : Streams) (c : StartedCommand)
    (cause : IoError) : Prop where
  /-- The line is read as the command, and the files of its directives are opened. -/
  starts : sh.Starts line c
  /-- The name of the command is that of no built-in command. -/
  foreign : c.name ∉ Builtin.all.map Builtin.name
  /-- The child that it asks for is refused. -/
  refused : ∃ request, c.program.Asks (c.opened.streams io) (sh.withFiles c.files) request ∧
    (sh.withFiles c.files).host.spawn request = .error cause

/-- Such a line fails, and does nothing else. -/
theorem RefusesChild.execute_eq (h : sh.RefusesChild line io c cause) :
    sh.execute line io = ⟨.error (c.program.refusal cause),
      c.opened.restore io (c.opened.streams io), sh.withFiles c.files⟩ := by
  obtain ⟨request, hasks, hspawn⟩ := h.refused
  rw [execute_of_starts h.starts, outcomeOf_foreign h.foreign,
    ProgramCommand.run_of_refused hasks hspawn]
  rfl

/-- It ends the session unless the reason is one of four. -/
theorem RefusesChild.isFatal_iff (h : sh.RefusesChild line io c cause) :
    (c.program.refusal cause).isFatal = true ↔ cause = .nulInCommand ∨
      ∃ reason, cause = .os reason ∧
        reason ∉ [Errno.notPermitted, .notFound, .badFormat, .permissionDenied] := by
  obtain ⟨request, -, hspawn⟩ := h.refused
  rw [ProgramCommand.refusal_isFatal]
  rcases Host.spawn_eq_error_iff.1 hspawn with ⟨-, rfl⟩ | ⟨-, reason, -, rfl⟩
  · simp [ProgramCommand.isLoadFailure]
  · simp only [ProgramCommand.isLoadFailure, Bool.not_eq_true', ← Bool.not_eq_true,
      List.contains_iff_mem, IoError.os.injEq, exists_eq_left', reduceCtorEq, false_or]

/-- What a command reports ends the session only if a child is refused to it. -/
theorem refusesChild_of_fatal {e : CommandError} (h : sh.Starts line c)
    (hresult : (sh.outcomeOf c io).result = .error e) (hfatal : e.classify.isFatal = true) :
    ∃ cause, sh.RefusesChild line io c cause ∧ (c.program.refusal cause).isFatal = true := by
  have hother : e.IsIo → ∃ cause, sh.RefusesChild line io c cause ∧
      (c.program.refusal cause).isFatal = true := fun hio =>
    absurd hfatal (by rw [CommandError.isFatal_of_isIo hio]; decide)
  rcases hname : Builtin.ofName? c.name with _ | b
  · have hforeign := Builtin.ofName?_eq_none_iff.1 hname
    have hcourse := c.program.run_course (c.opened.streams io) (sh.withFiles c.files)
    rw [outcomeOf_foreign hforeign] at hresult
    generalize c.program.run (c.opened.streams io) (sh.withFiles c.files) = o at hcourse hresult
    -- A name without a program, and requests other than that for the child, cost the line only.
    cases hcourse with
    | missing =>
      cases hresult
      cases hfatal
    | stuck hflush =>
      cases hresult
      exact hother (Streams.flush_error hflush)
    | refused hasks hspawn =>
      cases hresult
      exact ⟨_, ⟨h, hforeign, _, hasks, hspawn⟩, hfatal⟩
    | recorded => cases hresult
    | awaited _ _ _ hwait =>
      dsimp only at hresult
      rcases hwait with ⟨status, -, rfl⟩ | ⟨cause, -, -, rfl⟩
      · cases hresult
      · cases hresult
        exact hother (CommandError.isIo_ofIo cause)
  · rw [outcomeOf_builtin hname] at hresult
    exact hother (Builtin.run_error hresult)

/-- Without a command, a line ends the session only if one of its files cannot be opened. -/
theorem StartsNothing.refuses_of_fatal {files : FileSystem}
    (h : sh.StartsNothing line (.error failure) files) (hfatal : failure.isFatal = true) :
    ∃ c files r cause, CommandLine.parse line = .ok (some c) ∧
      sh.Refuses c.redirections files r cause := by
  cases h with
  | unreadable hread =>
    obtain ⟨direction, rfl⟩ := CommandLine.parse_error hread
    cases hfatal
  | refused hread hrefused => exact ⟨_, _, _, _, hread, hrefused⟩

/-- **The lines that end the session.** A line fails in a way that ends the session exactly if

* a file of one of its directives cannot be opened; or
* it starts a program, and the child is refused: because of a NUL byte in its text, or by the system
  for any reason but that it is not permitted, that something is not found, that the file has a bad
  format, or that permission is denied.

In both cases nothing has happened but that files were opened. Every other refusal is a failure that
costs its own line only. -/
theorem execute_fatal_iff (sh : Shell) (line : String) (io : Streams) :
    ((∃ failure, (sh.execute line io).result = .error failure ∧ failure.isFatal = true) ↔
      (∃ c files r cause, CommandLine.parse line = .ok (some c) ∧
        sh.Refuses c.redirections files r cause) ∨
      ∃ c cause, sh.RefusesChild line io c cause ∧ (cause = .nulInCommand ∨
        ∃ reason, cause = .os reason ∧
          reason ∉ [Errno.notPermitted, .notFound, .badFormat, .permissionDenied])) ∧
    (∀ c cause, sh.RefusesChild line io c cause →
      (sh.execute line io).shell = sh.withFiles c.files ∧
      ∃ failure, (sh.execute line io).result = .error failure ∧
        (failure = .launch c.name cause ∨ failure = .spawn c.name cause)) := by
  refine ⟨⟨?_, ?_⟩, ?_⟩
  · rintro ⟨failure, hresult, hfatal⟩
    rcases sh.starts_or_not line with ⟨c, hstarts⟩ | ⟨result, files, hnothing⟩
    · right
      rw [execute_of_starts hstarts] at hresult
      rcases hreport : (sh.outcomeOf c io).result with e | code
      · rw [hreport] at hresult
        cases hresult
        obtain ⟨cause, hrefuses, hrefusal⟩ := refusesChild_of_fatal hstarts hreport hfatal
        exact ⟨c, cause, hrefuses, hrefuses.isFatal_iff.1 hrefusal⟩
      · rw [hreport] at hresult
        cases hresult
    · left
      rw [hnothing.execute_eq io] at hresult
      cases hresult
      exact hnothing.refuses_of_fatal hfatal
  · rintro (⟨c, files, r, cause, hread, hrefused⟩ | ⟨c, cause, hrefuses, hcause⟩)
    · refine ⟨r.refusal cause, ?_, r.refusal_isFatal cause⟩
      rw [execute_of_parse hread, executeParsed_of_refused hrefused]
    · refine ⟨c.program.refusal cause, ?_, hrefuses.isFatal_iff.2 hcause⟩
      rw [hrefuses.execute_eq]
  · intro c cause hrefuses
    rw [hrefuses.execute_eq]
    refine ⟨rfl, c.program.refusal cause, rfl, ?_⟩
    unfold ProgramCommand.refusal
    split_ifs
    · exact .inl rfl
    · exact .inr rfl

end Shell

namespace Sample

/-- A call of `/cat` with a NUL byte in its argument. -/
def unspeakable : StartedCommand := ⟨"/cat", ["a\x00b"], [], false, files, {}⟩

theorem refusesChild_unspeakable :
    shell.RefusesChild "/cat a\x00b" {} unspeakable .nulInCommand where
  starts := ⟨by decide +kernel, .nil⟩
  foreign := by decide
  refused := by
    refine ⟨_, ⟨⟨_, isFilter_cat.found, rfl⟩, rfl⟩, ?_⟩
    exact Host.spawn_eq_error_iff.2 (.inl ⟨by decide, rfl⟩)

/-- The system could make a process for it, and still it ends the session. -/
theorem fatal_argument : ¬ ∀ (sh : Shell) (line : String) (io : Streams),
    (∀ word ∈ words line, word ∉ ["<", ">", ">>"]) →
      ∀ failure, (sh.execute line io).result = .error failure → failure.isFatal = false := by
  intro hall
  have hwords : words "/cat a\x00b" = ["/cat", "a\x00b"] := by decide +kernel
  have hplain : ∀ word ∈ words "/cat a\x00b", word ∉ ["<", ">", ">>"] := by
    rw [hwords]
    decide
  have hresult := congrArg Outcome.result refusesChild_unspeakable.execute_eq
  have hfatal := refusesChild_unspeakable.isFatal_iff.2 (.inl rfl)
  rw [hall shell "/cat a\x00b" {} hplain _ hresult] at hfatal
  cases hfatal

end Sample

end CommandShell

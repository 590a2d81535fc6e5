import CommandShell.Proofs.LeavingSession
import CommandShell.Proofs.LostMessages
import CommandShell.Proofs.ReportContexts

namespace CommandShell

/-!
# BuiltinFailures — built-in commands fail without ending the session

Built-in commands ask the system for much, and each request may fail: to write and to pass on what
was written, to read a line, to look up and enter a directory, to start and await a program. All
they report are such requests, so whatever fails, both loops go on with the line after it. There is
one exception, which the commands have no part in: the shell's process ends where it cannot write
what it has to report of the line.

* `Shell.StartsBuiltin` — lines that start a built-in command;
* `Shell.StartsBuiltin.result_cases` — what comes of them;
* `Shell.StartsBuiltin.execute_aborted_iff`, `Shell.StartsBuiltin.settle_aborted_iff` — which of
  them end the shell's process;
* `Shell.StartsBuiltin.runLines_append` — a script goes on after such a line, wherever it stands;
* `Shell.Executes.not_startsBuiltin` — a script that fails does so at another line;
* `Shell.Talks.after_builtin` — a dialogue goes on;
* `Shell.builtin_goes_on` — all of these together;
* `Sample.unheard_failure` — the report of a failure that cannot be written.
-/

namespace Shell

variable {sh here after : Shell} {line : String} {bytes : Bytes} {lines executed front : List Bytes}
  {failure : Failure} {rounds before later : List Round} {r : Round}
  {result : Except Failure Unit}

/-! ### The line -/

/-- The line starts a built-in command: the files of its directives are opened, and it is called by
    the name of one. -/
def StartsBuiltin (sh : Shell) (line : String) : Prop :=
  ∃ c, sh.Starts line c ∧ c.name ∈ Builtin.all.map Builtin.name

namespace StartsBuiltin

/-- **What comes of such a line:** a code, or the failure of a built-in command. -/
theorem result_cases (h : sh.StartsBuiltin line) (io : Streams) :
    (∃ code, (sh.execute line io).result = .ok code) ∨
      ∃ report, (sh.execute line io).result = .error (.builtin report) := by
  obtain ⟨c, hstarts, hname⟩ := h
  obtain ⟨b, hb⟩ : ∃ b, Builtin.ofName? c.name = some b := by
    by_contra hnone
    have hforeign : Builtin.ofName? c.name = none :=
      Option.eq_none_iff_forall_ne_some.2 fun b hb => hnone ⟨b, hb⟩
    exact Builtin.ofName?_eq_none_iff.1 hforeign hname
  rcases hresult : (sh.outcomeOf c io).result with report | code
  · -- Wherever it stopped, a request to the system had failed there.
    have hio : report.IsIo := by
      rw [outcomeOf_builtin hb] at hresult
      exact Builtin.run_error hresult
    obtain ⟨cause, hcause⟩ := hio
    have hplain : report.cause.IsPlain := by
      intro known hknown
      rw [hcause] at hknown
      cases hknown
    refine .inr ⟨⟨report.contexts, report.cause.text⟩, ?_⟩
    rw [hstarts.execute_error hresult, CommandError.classify_of_plain hplain]
  · refine .inl ⟨code, ?_⟩
    rw [execute_of_starts hstarts, hresult]
    rfl

/-- No failure of it ends the session. -/
theorem not_fatal (h : sh.StartsBuiltin line) {io : Streams}
    (hresult : (sh.execute line io).result = .error failure) : failure.isFatal = false := by
  rcases h.result_cases io with ⟨code, hcode⟩ | ⟨report, hreport⟩
  · rw [hcode] at hresult
    cases hresult
  · rw [hreport] at hresult
    cases hresult
    rfl

/-- Such a line is silenced only if its arguments are not taken: it makes no job. -/
theorem silenced_iff (h : sh.StartsBuiltin line) {io : Streams} : sh.Silenced line io ↔
    ∃ message, sh.Rejects line message ∧ sh.errors.Refuses (trimBlankEnd message ++ "\n") := by
  constructor
  · rintro (⟨hrejects, hrefuses⟩ | ⟨hstarts, hforeign, -⟩)
    · exact ⟨_, hrejects, hrefuses⟩
    · obtain ⟨c, hstarts', hname⟩ := h
      obtain rfl := hstarts.unique hstarts'
      exact absurd hname (Builtin.ofName?_eq_none_iff.1 hforeign)
  · rintro ⟨message, hrejects, hrefuses⟩
    exact .misused hrejects hrefuses

/-- **Executing it** ends the shell's process exactly if its arguments are not taken and this cannot
    be said. -/
theorem execute_aborted_iff (h : sh.StartsBuiltin line) {io : Streams} :
    (sh.execute line io).shell.aborted = true ↔ sh.aborted = true ∨
      ∃ message, sh.Rejects line message ∧ sh.errors.Refuses (trimBlankEnd message ++ "\n") := by
  rw [Shell.execute_aborted_iff, h.silenced_iff]

/-- **Running it** does so exactly if what is to be reported of it cannot be written. -/
theorem settle_aborted_iff (h : sh.StartsBuiltin line) :
    (settle (sh.execute line {})).2.aborted = true ↔ sh.aborted = true ∨ sh.Unreported line := by
  have hsilenced : sh.Silenced line {} → sh.Unreported line := by
    rw [h.silenced_iff]
    rintro ⟨message, hrejects, hrefuses⟩
    obtain ⟨left, hleaves⟩ := sh.exists_leaves line {}
    rw [← hrejects.leaves_eq hleaves] at hrefuses
    exact ⟨_, left, .misused hrejects, hleaves, hrefuses⟩
  rw [settle_execute_aborted_iff, or_iff_right_of_imp hsilenced]

end StartsBuiltin

/-! ### Scripts -/

/-- After such a line a script goes on, unless the session is to be left or the process has
    ended. -/
theorem StartsBuiltin.runLines_cons (h : sh.reap.1.StartsBuiltin bytes.toStringLossy)
    (rest : List Bytes) :
    sh.runLines (bytes :: rest) =
      if (sh.afterLine bytes).stops then (some (.ok ()), sh.afterLine bytes)
      else (sh.afterLine bytes).runLines rest := by
  have hgo : ∀ failure, (sh.lineOutcome bytes).result = .error failure →
      failure.isFatal = false := fun failure hresult => h.not_fatal hresult
  rw [runLines, runLine_of_not_fatal hgo]

/-- **A script goes on** after such a line, wherever it stands in the script. -/
theorem StartsBuiltin.runLines_append (h : here.reap.1.StartsBuiltin bytes.toStringLossy)
    (hfront : sh.runLines front = (none, here)) (rest : List Bytes) :
    sh.runLines (front ++ bytes :: rest) =
      if (here.afterLine bytes).stops then (some (.ok ()), here.afterLine bytes)
      else (here.afterLine bytes).runLines rest := by
  rw [Shell.runLines_append, hfront]
  exact h.runLines_cons rest

/-- The process has ended with such a line exactly if what is to be reported of it cannot be
    written. -/
theorem StartsBuiltin.afterLine_aborted_iff (h : sh.reap.1.StartsBuiltin bytes.toStringLossy) :
    (sh.afterLine bytes).aborted = true ↔
      sh.aborted = true ∨ sh.reap.1.Unreported bytes.toStringLossy := by
  rw [← runLine_snd]
  exact h.settle_aborted_iff

/-- A script that ends with the failure of a line ends at one that starts no built-in command. -/
theorem Executes.not_startsBuiltin (h : sh.Executes lines executed)
    (hverdict : (sh.runLines lines).1 = some (.error failure)) :
    ∃ front bytes, executed = front ++ [bytes] ∧
      ((sh.afterLines front).lineOutcome bytes).result = .error failure ∧
      ¬ (sh.afterLines front).reap.1.StartsBuiltin bytes.toStringLossy := by
  obtain ⟨executed', h', -, hfails⟩ := sh.runLines_executes lines
  obtain rfl := h.unique h'
  obtain ⟨hfatal, front, bytes, hsplit, hresult⟩ := (hfails failure).1 hverdict
  refine ⟨front, bytes, hsplit, hresult, fun hstarts => ?_⟩
  have hmild : failure.isFatal = false := hstarts.not_fatal hresult
  rw [hmild] at hfatal
  cases hfatal

/-! ### Dialogues -/

/-- The session survives a round with such a line. -/
theorem StartsBuiltin.after_fst (h : r.shell.StartsBuiltin r.text) : r.after.1 = .ok () := by
  rcases hafter : r.after.1 with failure | ⟨⟩
  · obtain ⟨hresult, hfatal⟩ := settle_eq_error_iff.1 hafter
    have hmild : failure.isFatal = false := h.not_fatal hresult
    rw [hmild] at hfatal
    cases hfatal
  · rfl

/-- **A dialogue goes on** after such a line: what follows is the dialogue of the shell that it
    left. -/
theorem Talks.after_builtin (h : sh.Talks rounds result after)
    (hsplit : rounds = before ++ r :: later) (hstarts : r.shell.StartsBuiltin r.text) :
    r.after.2.Talks later result after := by
  induction h generalizing before with
  | left | finished | failed => simp at hsplit
  | fatal hears hround =>
    -- The only round of such a dialogue is one that does not survive.
    rw [eq_comm, List.append_eq_singleton_iff] at hsplit
    rcases hsplit with ⟨-, hlast⟩ | ⟨-, hlast⟩
    · obtain ⟨rfl, -⟩ := List.cons.inj hlast
      have hsurvives := hstarts.after_fst
      rw [hround] at hsurvives
      cases hsurvives
    · cases hlast
  | round hears hround htalks ih =>
    cases before with
    | nil =>
      obtain ⟨rfl, rfl⟩ := List.cons.inj hsplit
      rwa [hround]
    | cons first before => exact ih (List.cons.inj hsplit).2

/-! ### All together -/

/-- **Built-in commands never end the session by failing.** Whatever the shell and the streams are,
    let a line start a built-in command, so that the files of all its directives are open.

* It gives a code or the failure of a built-in command, which is not fatal. The session is to be
  left afterwards exactly if it was before, or if the line is a `quit` that takes its arguments. The
  shell's process has ended exactly if it had before, or if the arguments are not taken and there is
  no room on standard error output to say so.
* Where a script gets to such a line, it goes on with the next one, on the shell that the line left,
  unless the session is to be left or the process has ended. The process has ended exactly if it had
  before, or if there is no room on standard error output for what is to be reported of the line. A
  script that ends with the failure of a line ends at another line.
* So does a dialogue: it survives the line, and all that follows is the dialogue of the shell that
  the line left. -/
theorem builtin_goes_on (sh : Shell) :
    (∀ (line : String) (io : Streams), sh.StartsBuiltin line →
      ((∃ code, (sh.execute line io).result = .ok code) ∨
        ∃ report, (sh.execute line io).result = .error (.builtin report)) ∧
      (∀ failure, (sh.execute line io).result = .error failure → failure.isFatal = false) ∧
      ((sh.execute line io).shell.session.exiting = true ↔
        sh.session.exiting = true ∨ sh.Quits line) ∧
      ((sh.execute line io).shell.aborted = true ↔ sh.aborted = true ∨
        ∃ message, sh.Rejects line message ∧
          sh.errors.Refuses (trimBlankEnd message ++ "\n"))) ∧
    (∀ (here : Shell) (front : List Bytes) (bytes : Bytes) (rest : List Bytes),
      sh.runLines front = (none, here) → here.reap.1.StartsBuiltin bytes.toStringLossy →
      sh.runLines (front ++ bytes :: rest) =
        (if (here.afterLine bytes).stops then (some (.ok ()), here.afterLine bytes)
        else (here.afterLine bytes).runLines rest) ∧
      ((here.afterLine bytes).aborted = true ↔
        here.aborted = true ∨ here.reap.1.Unreported bytes.toStringLossy)) ∧
    (∀ (lines executed : List Bytes) (failure : Failure),
      sh.Executes lines executed → (sh.runLines lines).1 = some (.error failure) →
      ∃ front bytes, executed = front ++ [bytes] ∧
        ((sh.afterLines front).lineOutcome bytes).result = .error failure ∧
        ¬ (sh.afterLines front).reap.1.StartsBuiltin bytes.toStringLossy) ∧
    (∀ (after : Shell) (before later : List Round) (r : Round) (result : Except Failure Unit),
      sh.Talks (before ++ r :: later) result after → r.shell.StartsBuiltin r.text →
      r.after.1 = .ok () ∧ r.after.2.Talks later result after ∧
        sh.converse = r.after.2.converse ∧
      (r.after.2.aborted = true ↔ r.shell.aborted = true ∨ r.shell.Unreported r.text)) := by
  refine ⟨fun line io hstarts => ⟨hstarts.result_cases io, fun failure => hstarts.not_fatal,
    execute_exiting_iff sh line io, hstarts.execute_aborted_iff⟩, ?_, ?_, ?_⟩
  · intro here front bytes rest hfront hstarts
    exact ⟨hstarts.runLines_append hfront rest, hstarts.afterLine_aborted_iff⟩
  · intro lines executed failure hexec hverdict
    exact hexec.not_startsBuiltin hverdict
  · intro after before later r result htalks hstarts
    have hlater := htalks.after_builtin rfl hstarts
    exact ⟨hstarts.after_fst, hlater, htalks.converse_eq.trans hlater.converse_eq.symm,
      hstarts.settle_aborted_iff⟩

end Shell

/-! ### Outputs without room -/

namespace Sample

/-- A shell with the given standard streams. -/
def shellOn (terminal : Terminal) : Shell :=
  { shell with
    host := { shell.host with world := { shell.host.world with terminal } } }

/-- An output without room. -/
def full : Capture := { room := some (0, Errno.noSpace) }

/-- A shell whose standard output has no room. -/
def crammed : Shell := shellOn { output := full }

theorem starts_crammed :
    crammed.reap.1.Starts "echo a" ⟨"echo", ["a"], [], false, files, {}⟩ :=
  ⟨by decide +kernel, .nil⟩

/-- There `echo` fails, and the script goes on with its next line. -/
theorem script_goes_on :
    crammed.reap.1.StartsBuiltin "echo a" ∧
    (crammed.reap.1.execute "echo a" {}).result
      = .error (.builtin ⟨[], "No space left on device (os error 28)"⟩) ∧
    crammed.runLines [Bytes.ofString "echo a", Bytes.ofString "quit"]
      = (crammed.afterLine (Bytes.ofString "echo a")).runLines [Bytes.ofString "quit"] := by
  have htext : (Bytes.ofString "echo a").toStringLossy = "echo a" := by decide +kernel
  have hstarts : crammed.reap.1.StartsBuiltin "echo a" := ⟨_, starts_crammed, by decide⟩
  obtain ⟨hline, -⟩ := Shell.builtin_goes_on crammed.reap.1
  obtain ⟨-, hscript, -⟩ := Shell.builtin_goes_on crammed
  have hresult : (crammed.reap.1.execute "echo a" {}).result
      = .error (.builtin ⟨[], "No space left on device (os error 28)"⟩) := by
    rw [Shell.execute_of_starts starts_crammed]
    rfl
  have hread : crammed.reap.1.StartsBuiltin (Bytes.ofString "echo a").toStringLossy := by
    rw [htext]
    exact hstarts
  obtain ⟨hgoes, hended⟩ := hscript crammed [] (Bytes.ofString "echo a")
    [Bytes.ofString "quit"] rfl hread
  -- The line is no `quit`, so the session is not to be left.
  have hstays : (crammed.afterLine (Bytes.ofString "echo a")).session.exiting = false := by
    obtain ⟨-, -, hexit, -⟩ := hline "echo a" {} hstarts
    rw [starts_crammed.quits_iff] at hexit
    rw [Shell.afterLine_session, Shell.lineOutcome, htext, Bool.eq_false_iff]
    intro hleaves
    rcases hexit.1 hleaves with hbefore | ⟨hquit, -⟩
    · cases hbefore
    · exact absurd hquit (by decide)
  -- Standard error output has room for the report.
  have hruns : (crammed.afterLine (Bytes.ofString "echo a")).aborted = false := by
    rw [Bool.eq_false_iff]
    intro haborted
    rcases hended.1 haborted with hbefore | ⟨text, left, -, hleaves, hrefuses⟩
    · cases hbefore
    · cases hleaves with
      | child hspawns =>
        rw [htext] at hspawns
        obtain ⟨hhelp, -⟩ := (starts_crammed.spawns_builtin (b := .echo) rfl).1 hspawns
        cases hhelp
      | alone =>
        obtain ⟨room, reason, hroom, -⟩ := Capture.refuses_iff.1 hrefuses
        cases hroom
  rw [Shell.stops, hstays, hruns] at hgoes
  exact ⟨hstarts, hresult, hgoes⟩

/-- A shell whose standard error output has no room. -/
def muffled : Shell := shellOn { errors := full }

/-- There a `cd` to a directory that does not exist fails like any built-in command, and does not
    ask to leave. But its failure cannot be reported, so the shell's process ends, and the next line
    of the script is not executed. -/
theorem unheard_failure :
    muffled.reap.1.StartsBuiltin "cd nosuch" ∧
    (muffled.reap.1.execute "cd nosuch" {}).result
      = .error (.builtin ⟨["cd: nosuch"], "No such file or directory (os error 2)"⟩) ∧
    (muffled.afterLine (Bytes.ofString "cd nosuch")).session.exiting = false ∧
    muffled.Executes [Bytes.ofString "cd nosuch", Bytes.ofString "echo a"]
      [Bytes.ofString "cd nosuch"] := by
  have htext : (Bytes.ofString "cd nosuch").toStringLossy = "cd nosuch" := by decide +kernel
  have hstarts : muffled.reap.1.Starts "cd nosuch" ⟨"cd", ["nosuch"], [], false, files, {}⟩ :=
    ⟨by decide +kernel, .nil⟩
  have hbuiltin : muffled.reap.1.StartsBuiltin "cd nosuch" := ⟨_, hstarts, by decide⟩
  have hresult : (muffled.reap.1.execute "cd nosuch" {}).result
      = .error (.builtin ⟨["cd: nosuch"], "No such file or directory (os error 2)"⟩) := by
    have hgo : Builtin.goTo (muffled.reap.1.withFiles files) "nosuch"
        = .error ((CommandError.ofIo (.os .notFound)).within "cd: nosuch") := by
      have hname : (Path.ofString "/d").IsPlainIn (Bytes.ofString "nosuch") := by
        constructor <;> decide
      exact Builtin.goTo_of_nowhere
        (FileSystem.canonicalize_vacant isDirectoryAt_here hname (by decide))
    have hread : Builtin.cd.read ["nosuch"] = .accepted ["nosuch"] := by decide
    rw [Shell.execute_of_starts hstarts, Shell.outcomeOf_builtin (Shell.ofName?_name .cd),
      Builtin.run_cd_of_refused hread hgo]
    rfl
  have hstays : (muffled.afterLine (Bytes.ofString "cd nosuch")).session.exiting = false := by
    rw [Shell.afterLine_session, Shell.lineOutcome, htext, Bool.eq_false_iff]
    intro hleaves
    rcases (Shell.execute_exiting_iff ..).1 hleaves with hbefore | hquits
    · cases hbefore
    · exact absurd (hstarts.quits_iff.1 hquits).1 (by decide)
  have hunreported : muffled.reap.1.Unreported "cd nosuch" := by
    obtain ⟨left, hleaves⟩ := muffled.reap.1.exists_leaves "cd nosuch" {}
    refine ⟨_, left, .failed hresult rfl, hleaves, ?_⟩
    cases hleaves with
    | child hspawns =>
      obtain ⟨hhelp, -⟩ := (hstarts.spawns_builtin (b := .cd) rfl).1 hspawns
      cases hhelp
    | alone =>
      exact Capture.refuses_iff.2 ⟨0, .noSpace, rfl, by decide⟩
  have hends : (muffled.lineOutcome (Bytes.ofString "cd nosuch")).EndsSession := by
    rw [Shell.lineOutcome, htext]
    exact .inr (.inr (hbuiltin.settle_aborted_iff.2 (.inr hunreported)))
  exact ⟨hbuiltin, hresult, hstays, Shell.executes_of_ends hends _⟩

end Sample

end CommandShell

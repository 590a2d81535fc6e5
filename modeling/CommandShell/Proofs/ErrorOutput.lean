import CommandShell.Proofs.BuiltinAnswers
import CommandShell.Proofs.CommandReports
import CommandShell.Proofs.ScriptRun

namespace CommandShell

/-!
# ErrorOutput — what a line adds to standard error output

A child writes to the standard error output of the shell whatever it likes. The shell itself and its
built-in commands write there in two cases only: where a line fails and the session goes on, and
where a built-in command does not take its arguments. Both come after the child, if there is one:

* `Shell.errors` — the standard error output;
* `Builtin.errors_run`, `ProgramCommand.errors_run_of_spawned` — what commands add to it;
* `Shell.Leaves` — what the child of a line leaves there;
* `Shell.Rejects`, `Shell.execute_errors` — what executing a line leaves there;
* `Shell.Reports` — what is reported of a line, which is at most one text;
  `Shell.Reports.oneLine` — it is on one line.
-/

namespace Shell

/-- The standard error output of the shell's process. -/
def errors (sh : Shell) : Capture := sh.host.world.terminal.errors

@[simp] theorem errors_withFiles (sh : Shell) (files : FileSystem) :
    (sh.withFiles files).errors = sh.errors := rfl

@[simp] theorem errors_complain (sh : Shell) (text : String) :
    (sh.complain text).errors = (sh.errors.put (Bytes.ofString text)).2 := rfl

theorem errors_write {io : Streams} (h : io.output ≠ .diagnostics) (sh : Shell) (bytes : Bytes) :
    (io.write sh bytes).2.2.errors = sh.errors :=
  Outlet.write_errors h sh.host.world bytes

theorem errors_skipLine (io : Streams) (sh : Shell) : (io.skipLine sh).2.2.errors = sh.errors := by
  rw [Streams.skipLine_shell]
  rfl

end Shell

/-! ### Commands -/

theorem Host.wait_world {h host : Host} {pid : Nat} {status : Status}
    (hwait : h.wait pid = .ok (status, host)) : host.world = h.world := by
  unfold wait at hwait
  split at hwait
  · cases hwait
  · cases hwait
    rfl

namespace Builtin

variable {io : Streams} {sh : Shell}

theorem errors_changeDirectory (h : io.output ≠ .diagnostics) (operand : Option String)
    (sh : Shell) : (changeDirectory operand io sh).shell.errors = sh.errors := by
  cases operand with
  | none => exact Shell.errors_write h sh _
  | some target =>
    rcases hgo : goTo sh target with failure | moved
    · simp only [changeDirectory, hgo]
    · obtain ⟨found, host, -, hmoves, rfl⟩ := goTo_eq_ok.1 hgo
      obtain ⟨-, found', -, -, rfl⟩ := Host.changeDirectory_eq_ok.1 hmoves
      simp only [changeDirectory, hgo]
      rfl

theorem errors_listDirectory (h : io.output ≠ .diagnostics) (operand : Option String)
    (sh : Shell) : (listDirectory operand io sh).shell.errors = sh.errors := by
  unfold listDirectory
  dsimp only
  split
  · rfl
  · exact Shell.errors_write h sh _

theorem errors_awaitLine (h : io.output ≠ .diagnostics) (sh : Shell) :
    (awaitLine io sh).shell.errors = sh.errors := by
  have hwrote := Shell.errors_write h sh (Bytes.ofString pauseMessage)
  unfold awaitLine
  rcases hwrite : io.write sh (Bytes.ofString pauseMessage) with ⟨_ | ⟨⟩, io', sh'⟩
  · rw [hwrite] at hwrote
    exact hwrote
  · rw [hwrite] at hwrote
    dsimp only
    split
    · exact hwrote
    · exact (Shell.errors_skipLine io' sh').trans hwrote

/-- **Built-in commands** that start no program add nothing. -/
theorem errors_perform {b : Builtin} (hhelp : b ≠ .help) (h : io.output ≠ .diagnostics)
    (operands : List String) (sh : Shell) :
    (b.perform operands io sh).shell.errors = sh.errors := by
  cases b with
  | help => exact absurd rfl hhelp
  | cd => exact errors_changeDirectory h operands.head? sh
  | dir => exact errors_listDirectory h operands.head? sh
  | pause => exact errors_awaitLine h sh
  | quit => rfl
  | clr | environ | echo => exact Shell.errors_write h sh _
  | jobs => exact Shell.errors_write h sh.reap.1 _

/-- The pager is a child, and nothing is added to what it leaves. -/
theorem errors_showManual_of_spawned {pid : Nat} {started : Host}
    (hflush : Streams.flush {} sh = .ok ())
    (hspawn : sh.host.spawn (pagerRequest io sh) = .ok (pid, started)) :
    (showManual io sh).shell.errors = started.world.terminal.errors := by
  obtain ⟨status, host, hwait⟩ := Host.wait_of_spawn hspawn
  rw [showManual_eq, hflush]
  simp only [hspawn, hwait, Shell.errors, Host.wait_world hwait]

/-- Without a child nothing is added. -/
theorem errors_showManual_of_not_spawned (h : Streams.flush {} sh = .ok () →
      ∀ pid started, sh.host.spawn (pagerRequest io sh) ≠ .ok (pid, started)) :
    (showManual io sh).shell.errors = sh.errors := by
  rw [showManual_eq]
  split
  · rfl
  · rename_i hflush
    split
    · rfl
    · rename_i hspawn
      exact absurd hspawn (h hflush _ _)

/-- What is not accepted is explained on the output of the command, or complained about. -/
theorem errors_run_of_not_accepted {b : Builtin} {arguments : List String}
    (hread : ∀ operands, b.read arguments ≠ .accepted operands) (h : io.output ≠ .diagnostics)
    (sh : Shell) : (b.run arguments io sh).shell.errors =
      match b.read arguments with
      | .rejected message => (sh.errors.put (Bytes.ofString (trimBlankEnd message ++ "\n"))).2
      | _ => sh.errors := by
  unfold run
  rcases hreading : b.read arguments with operands | _ | message
  · exact absurd hreading (hread operands)
  · exact Shell.errors_write h sh _
  · rfl

/-- **A call** of a built-in command that starts no program adds a complaint, or nothing. -/
theorem errors_run {b : Builtin} (hhelp : b ≠ .help) (h : io.output ≠ .diagnostics)
    (arguments : List String) (sh : Shell) : (b.run arguments io sh).shell.errors =
      match b.read arguments with
      | .rejected message => (sh.errors.put (Bytes.ofString (trimBlankEnd message ++ "\n"))).2
      | _ => sh.errors := by
  by_cases haccepted : ∃ operands, b.read arguments = .accepted operands
  · obtain ⟨operands, hread⟩ := haccepted
    rw [run_shell_of_accepted hread, hread]
    exact errors_perform hhelp h operands sh
  · exact errors_run_of_not_accepted (fun operands hread => haccepted ⟨operands, hread⟩) h sh

end Builtin

namespace ProgramCommand

variable {c : ProgramCommand} {io : Streams} {sh : Shell}

/-- **Programs** leave what their child leaves, whether it is waited for or not. -/
theorem errors_run_of_spawned {request : Launch} {pid : Nat} {started : Host}
    (h : c.Asks io sh request) (hspawn : sh.host.spawn request = .ok (pid, started)) :
    (c.run io sh).shell.errors = started.world.terminal.errors := by
  cases hbackground : c.background with
  | true =>
    rw [run_of_recorded h hspawn hbackground]
    rfl
  | false =>
    obtain ⟨⟨status, host, hwait, hrun⟩, -⟩ := run_left_of_spawned h hbackground hspawn
    rw [hrun]
    simp only [Shell.errors, Host.wait_world hwait]

/-- Without a child nothing is added. -/
theorem errors_run_of_not_spawned (h : ∀ request, c.Asks io sh request →
      ∀ pid started, sh.host.spawn request ≠ .ok (pid, started)) :
    (c.run io sh).shell.errors = sh.errors := by
  have hcourse := c.run_course io sh
  generalize c.run io sh = o at hcourse
  cases hcourse with
  | missing | stuck | refused => rfl
  | recorded hasks hspawn _ => exact absurd hspawn (h _ hasks _ _)
  | awaited hasks hspawn _ _ => exact absurd hspawn (h _ hasks _ _)

end ProgramCommand

/-! ### Lines -/

namespace Shell

variable {sh : Shell} {line : String} {io : Streams} {c : StartedCommand} {left : Capture}

/-- The line makes a child, which leaves the system like this. -/
def Spawns (sh : Shell) (line : String) (io : Streams) (started : Host) : Prop :=
  ∃ c request pid, sh.Starts line c ∧ sh.Requests line io request ∧
    (sh.withFiles c.files).host.spawn request = .ok (pid, started)

/-- What the child of a line leaves on the standard error output, and what was there before where
    the line makes none. -/
inductive Leaves (sh : Shell) (line : String) (io : Streams) : Capture → Prop
  /-- There is a child. -/
  | child {started : Host} : sh.Spawns line io started →
      Leaves sh line io started.world.terminal.errors
  /-- There is none. -/
  | alone : (∀ started, ¬ sh.Spawns line io started) → Leaves sh line io sh.errors

theorem exists_leaves (sh : Shell) (line : String) (io : Streams) :
    ∃ left, sh.Leaves line io left := by
  by_cases h : ∃ started, sh.Spawns line io started
  · obtain ⟨started, hspawns⟩ := h
    exact ⟨_, .child hspawns⟩
  · exact ⟨_, .alone fun started hspawns => h ⟨started, hspawns⟩⟩

/-- The line calls a built-in command with arguments that it does not take. -/
def Rejects (sh : Shell) (line : String) (message : String) : Prop :=
  ∃ c b, sh.Starts line c ∧ Builtin.ofName? c.name = some b ∧
    b.read c.arguments = .rejected message

/-- Which child a program makes. -/
theorem Starts.spawns_program (h : sh.Starts line c) (hname : Builtin.ofName? c.name = none)
    {started : Host} : sh.Spawns line io started ↔
      ∃ request pid, c.program.Asks (c.opened.streams io) (sh.withFiles c.files) request ∧
        (sh.withFiles c.files).host.spawn request = .ok (pid, started) := by
  have hforeign := Builtin.ofName?_eq_none_iff.1 hname
  constructor
  · rintro ⟨c', request, pid, hstarts, hrequests, hspawn⟩
    obtain rfl := h.unique hstarts
    cases hrequests with
    | program hstarts' _ hasks =>
      obtain rfl := h.unique hstarts'
      exact ⟨request, pid, hasks, hspawn⟩
    | pager hstarts' hhelp =>
      obtain rfl := h.unique hstarts'
      exact absurd (hhelp ▸ by decide) hforeign
  · rintro ⟨request, pid, hasks, hspawn⟩
    exact ⟨c, request, pid, h, .program h hforeign hasks, hspawn⟩

/-- Which child a built-in command makes: a pager. -/
theorem Starts.spawns_builtin {b : Builtin} (h : sh.Starts line c)
    (hname : Builtin.ofName? c.name = some b) {started : Host} : sh.Spawns line io started ↔
      b = .help ∧ Signature.Free c.arguments ∧
        Streams.flush {} (sh.withFiles c.files) = .ok () ∧ ∃ pid,
          (sh.withFiles c.files).host.spawn
            (Builtin.pagerRequest (c.opened.streams io) (sh.withFiles c.files))
              = .ok (pid, started) := by
  have hcalls := eq_name_of_ofName? hname
  constructor
  · rintro ⟨c', request, pid, hstarts, hrequests, hspawn⟩
    obtain rfl := h.unique hstarts
    cases hrequests with
    | program hstarts' hforeign =>
      obtain rfl := h.unique hstarts'
      rw [← Builtin.ofName?_eq_none_iff, hname] at hforeign
      cases hforeign
    | pager hstarts' hhelp hfree hflush =>
      obtain rfl := h.unique hstarts'
      have hb : some b = some .help := by
        rw [← hname, hhelp]
        exact ofName?_name .help
      exact ⟨Option.some.inj hb, hfree, hflush, pid, hspawn⟩
  · rintro ⟨rfl, hfree, hflush, pid, hspawn⟩
    exact ⟨c, _, pid, h, .pager h hcalls hfree hflush, hspawn⟩

/-- No file stands in for standard error output. -/
theorem streams_output_ne (hout : io.output ≠ .diagnostics) (opened : OpenedFiles) :
    (opened.streams io).output ≠ .diagnostics := by
  rcases opened with ⟨input, _ | output⟩
  · exact hout
  · exact fun h => by cases h

/-- A program adds nothing to what its child leaves. -/
theorem Starts.errors_of_program (h : sh.Starts line c) (hname : Builtin.ofName? c.name = none)
    (hleaves : sh.Leaves line io left) : (sh.outcomeOf c io).shell.errors = left := by
  rw [outcomeOf_program hname]
  cases hleaves with
  | child hspawns =>
    obtain ⟨request, pid, hasks, hspawn⟩ := (h.spawns_program hname).1 hspawns
    exact ProgramCommand.errors_run_of_spawned hasks hspawn
  | alone hnone =>
    refine ProgramCommand.errors_run_of_not_spawned fun request hasks pid started hspawn => ?_
    exact hnone started ((h.spawns_program hname).2 ⟨request, pid, hasks, hspawn⟩)

/-- A built-in command adds a complaint about its arguments, or nothing. -/
theorem Starts.errors_of_builtin {b : Builtin} (h : sh.Starts line c)
    (hname : Builtin.ofName? c.name = some b) (hout : io.output ≠ .diagnostics)
    (hleaves : sh.Leaves line io left) : (sh.outcomeOf c io).shell.errors =
      match b.read c.arguments with
      | .rejected message => (left.put (Bytes.ofString (trimBlankEnd message ++ "\n"))).2
      | _ => left := by
  have hopened := streams_output_ne hout c.opened
  have hfree : ∀ {operands : List String}, Builtin.help.read c.arguments = .accepted operands →
      Signature.Free c.arguments := fun hread =>
    (Builtin.read_free_iff rfl (by decide) c.arguments).1 ⟨_, hread⟩
  rw [outcomeOf_builtin hname]
  cases hleaves with
  | child hspawns =>
    -- The child is a pager, so the arguments of `help` have been accepted.
    obtain ⟨rfl, hfree, hflush, pid, hspawn⟩ := (h.spawns_builtin hname).1 hspawns
    obtain ⟨operands, hread⟩ :=
      (Builtin.read_free_iff (b := .help) rfl (by decide) c.arguments).2 hfree
    rw [Builtin.run_shell_of_accepted hread, hread]
    exact Builtin.errors_showManual_of_spawned hflush hspawn
  | alone hnone =>
    by_cases hhelp : b = .help
    · subst hhelp
      by_cases haccepted : ∃ operands, Builtin.help.read c.arguments = .accepted operands
      · obtain ⟨operands, hread⟩ := haccepted
        rw [Builtin.run_shell_of_accepted hread, hread]
        refine Builtin.errors_showManual_of_not_spawned fun hflush pid started hspawn => ?_
        exact hnone started ((h.spawns_builtin hname).2 ⟨rfl, hfree hread, hflush, pid, hspawn⟩)
      · exact Builtin.errors_run_of_not_accepted
          (fun operands hread => haccepted ⟨operands, hread⟩) hopened _
    · exact Builtin.errors_run hhelp hopened c.arguments _

/-- **Executing a line** adds a complaint about the arguments of a built-in command to what the
    child of the line leaves, and nothing else. -/
theorem execute_errors (hout : io.output ≠ .diagnostics) (hleaves : sh.Leaves line io left) :
    (∀ message, sh.Rejects line message → (sh.execute line io).shell.errors
      = (left.put (Bytes.ofString (trimBlankEnd message ++ "\n"))).2) ∧
    ((∀ message, ¬ sh.Rejects line message) → (sh.execute line io).shell.errors = left) := by
  constructor
  · rintro message ⟨c, b, hstarts, hname, hread⟩
    rw [execute_of_starts hstarts, hstarts.errors_of_builtin hname hout hleaves, hread]
  · intro hnone
    rcases sh.starts_or_not line with ⟨c, hstarts⟩ | ⟨result, files, hnothing⟩
    · rw [execute_of_starts hstarts]
      rcases hname : Builtin.ofName? c.name with _ | b
      · exact hstarts.errors_of_program hname hleaves
      · rw [hstarts.errors_of_builtin hname hout hleaves]
        rcases hread : b.read c.arguments with operands | _ | message
        · rfl
        · rfl
        · exact absurd ⟨c, b, hstarts, hname, hread⟩ (hnone message)
    · -- A line that starts nothing has no child.
      rw [hnothing.execute_eq io, errors_withFiles]
      cases hleaves with
      | child hspawns =>
        obtain ⟨c, -, -, hstarts, -⟩ := hspawns
        exact absurd hstarts (hnothing.not_starts c)
      | alone => rfl

/-! ### Reports -/

/-- What is reported of a line that is executed on the shell's own streams. -/
inductive Reports (sh : Shell) (line : String) : String → Prop
  /-- The line has failed, and the session goes on. -/
  | failed {failure : Failure} : (sh.execute line {}).result = .error failure →
      failure.isFatal = false → Reports sh line failure.message
  /-- It has called a built-in command with arguments that this does not take. -/
  | misused {message : String} : sh.Rejects line message →
      Reports sh line (trimBlankEnd message)

/-- A built-in command that does not take its arguments does not fail. -/
theorem Rejects.result_eq {message : String} (h : sh.Rejects line message) (io : Streams) :
    (sh.execute line io).result = .ok Builtin.misused := by
  obtain ⟨c, b, hstarts, hname, hread⟩ := h
  rw [execute_of_starts hstarts, outcomeOf_builtin hname]
  unfold Builtin.run
  rw [hread]
  rfl

/-- Nor does it start a pager. -/
theorem Rejects.not_spawns {message : String} (h : sh.Rejects line message) (started : Host) :
    ¬ sh.Spawns line io started := by
  intro hspawns
  obtain ⟨c, b, hstarts, hname, hread⟩ := h
  obtain ⟨rfl, hfree, -⟩ := (hstarts.spawns_builtin hname).1 hspawns
  obtain ⟨operands, haccepted⟩ :=
    (Builtin.read_free_iff (b := .help) rfl (by decide) c.arguments).2 hfree
  rw [haccepted] at hread
  cases hread

/-- So its message comes after what was there before. -/
theorem Rejects.leaves_eq {message : String} (h : sh.Rejects line message)
    (hleaves : sh.Leaves line io left) : left = sh.errors := by
  cases hleaves with
  | child hspawns => exact absurd hspawns (h.not_spawns _)
  | alone => rfl

/-- A line that fails adds nothing to what its child leaves: its arguments were taken. -/
theorem Leaves.errors_eq {failure : Failure} (h : sh.Leaves line {} left)
    (hresult : (sh.execute line {}).result = .error failure) :
    (sh.execute line {}).shell.errors = left := by
  refine (execute_errors (by decide) h).2 fun message hrejects => ?_
  rw [hrejects.result_eq] at hresult
  cases hresult

theorem Rejects.unique {message message' : String} (h : sh.Rejects line message)
    (h' : sh.Rejects line message') : message = message' := by
  obtain ⟨c, b, hstarts, hname, hread⟩ := h
  obtain ⟨c', b', hstarts', hname', hread'⟩ := h'
  obtain rfl := hstarts.unique hstarts'
  obtain rfl := Option.some.inj (hname.symm.trans hname')
  exact Reading.rejected.inj (hread.symm.trans hread')

/-- **One report.** Nothing is reported of a line twice. -/
theorem Reports.unique {text text' : String} (h : sh.Reports line text)
    (h' : sh.Reports line text') : text = text' := by
  cases h with
  | failed hresult =>
    cases h' with
    | failed hresult' =>
      obtain rfl := Except.error.inj (hresult.symm.trans hresult')
      rfl
    | misused hrejects =>
      rw [hrejects.result_eq] at hresult
      cases hresult
  | misused hrejects =>
    cases h' with
    | failed hresult' =>
      rw [hrejects.result_eq] at hresult'
      cases hresult'
    | misused hrejects' => rw [hrejects.unique hrejects']

/-- **One line.** What is reported of a line is on one line. -/
theorem Reports.oneLine {text : String} (h : sh.Reports line text)
    (hpager : OneLine sh.session.help.pager) (hgoes : sh.GoesPlainly line) : OneLine text := by
  cases h with
  | failed hresult => exact oneLine_of_execute_error hresult hpager hgoes
  | misused hrejects =>
    obtain ⟨c, b, hstarts, -, hread⟩ := hrejects
    exact hstarts.oneLine_of_rejected hread

/-- **A line** that is executed adds its report to what its child leaves, and nothing else. -/
theorem settle_errors (hleaves : sh.Leaves line {} left) :
    (∀ text, sh.Reports line text → (settle (sh.execute line {})).2.errors
      = (left.put (Bytes.ofString (text ++ "\n"))).2) ∧
    ((∀ text, ¬ sh.Reports line text) → (settle (sh.execute line {})).2.errors = left) := by
  obtain ⟨hmisused, hother⟩ := execute_errors (by decide) hleaves
  constructor
  · intro text hreports
    cases hreports with
    | failed hresult hgoes =>
      rw [settle, hresult]
      simp only [hgoes, Bool.false_eq_true, if_false, errors_complain,
        hleaves.errors_eq hresult]
    | misused hrejects =>
      rw [settle, hrejects.result_eq]
      exact hmisused _ hrejects
  · intro hnone
    rcases hresult : (sh.execute line {}).result with failure | code
    · -- A failure that is not reported ends the session.
      have hfatal : failure.isFatal = true := by
        by_contra hgoes
        exact hnone _ (.failed hresult (by simpa using hgoes))
      rw [settle, hresult]
      simp only [hfatal, if_true, hleaves.errors_eq hresult]
    · rw [settle, hresult]
      exact hother fun message hrejects => hnone _ (.misused hrejects)

end Shell

end CommandShell

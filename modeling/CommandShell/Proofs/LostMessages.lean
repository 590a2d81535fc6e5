import CommandShell.Proofs.ErrorOutput

namespace CommandShell

/-!
# LostMessages — messages of the shell that cannot be written

What a command writes is its output, and if that fails the command fails. The shell writes messages
of its own as well, and its process ends with the first of them that cannot be written. There are
three while a line is run: what is said of arguments that a built-in command does not take, what is
told of a new job, and the report of a failure. Commands write to the standard streams only what
they write as output, and no child ends the process:

* `Capture.Refuses` — an output has no room for a text;
* `Shell.Silenced` — the line has a message that cannot be written;
* `Shell.execute_aborted_iff` — executing a line ends the process in no other case;
* `Shell.Unreported`, `Shell.settle_execute_aborted_iff` — neither does running it, unless its report
  cannot be written.
-/

/-- The output has no room for the text. -/
def Capture.Refuses (output : Capture) (text : String) : Prop :=
  ∃ reason, (output.put (Bytes.ofString text)).1 = .error reason

/-- It is a matter of the bytes that still fit. -/
theorem Capture.refuses_iff {output : Capture} {text : String} :
    output.Refuses text ↔
      ∃ room reason, output.room = some (room, reason) ∧ room < (Bytes.ofString text).length := by
  rcases output with ⟨written, _ | ⟨room, reason⟩, flushFailure⟩
  · simp [Refuses, put]
  · by_cases hfits : room < (Bytes.ofString text).length <;> simp [Refuses, put, hfits]

namespace World

variable {outlet : Outlet}

/-- Writing bytes does nothing to the shell's process. -/
theorem write_shell (w : World) (outlet : Outlet) (bytes : Bytes) :
    (outlet.write w bytes).2.2.shell = w.shell := by
  cases outlet with
  | file handle =>
    unfold Outlet.write
    dsimp only
    split <;> rfl
  | discard | memory | terminal | diagnostics => rfl

/-- Writing a message ends it exactly if that fails. -/
theorem tell_aborted (w : World) (outlet : Outlet) (bytes : Bytes) :
    (w.tell outlet bytes).shell.aborted = true ↔
      w.shell.aborted = true ∨ ∃ reason, (outlet.write w bytes).1 = .error reason := by
  show (((outlet.write w bytes).2.2.shell.aborted || !(outlet.write w bytes).1.isOk) = true) ↔ _
  rw [Bool.or_eq_true, write_shell]
  rcases (outlet.write w bytes).1 with reason | ⟨⟩ <;> simp [Except.isOk, Except.toBool]

end World

/-- A child does nothing to the shell's process. -/
theorem Host.spawn_shell {h started : Host} {request : Launch} {pid : Nat}
    (hspawn : h.spawn request = .ok (pid, started)) : started.world.shell = h.world.shell := by
  unfold spawn at hspawn
  split_ifs at hspawn
  split at hspawn
  · cases hspawn
  · cases hspawn
    rfl

namespace Shell

variable {sh : Shell}

theorem aborted_complain {text : String} :
    (sh.complain text).aborted = true ↔ sh.aborted = true ∨ sh.errors.Refuses text :=
  World.tell_aborted ..

theorem aborted_print {text : String} : (sh.print text).aborted = true ↔
    sh.aborted = true ∨ sh.host.world.terminal.output.Refuses text :=
  World.tell_aborted ..

/-! ### Commands -/

/-- The steps that commands take do not end the process. -/
theorem Respected.aborted : Respected fun before after => after.aborted = before.aborted where
  refl _ := rfl
  trans h h' := h'.trans h
  write io sh bytes := congrArg ShellProcess.aborted (World.write_shell ..)
  skipLine io sh := by
    rw [Streams.skipLine_shell]
    rfl
  spawn hspawn := congrArg ShellProcess.aborted (Host.spawn_shell hspawn)
  wait hwait := by
    rw [Shell.aborted, Host.wait_world hwait]
    rfl

end Shell

namespace Builtin

variable {b : Builtin} {arguments : List String} {io : Streams} {sh : Shell}

/-- No built-in command ends the process with what it does. -/
theorem aborted_perform (b : Builtin) (operands : List String) (io : Streams) (sh : Shell) :
    (b.perform operands io sh).shell.aborted = sh.aborted := by
  -- Three commands change the session themselves; the others only take steps.
  by_cases hcalm : b ≠ .cd ∧ b ≠ .quit ∧ b ≠ .jobs
  · exact perform_respects .aborted hcalm operands io sh
  · cases b with
    | cd =>
      show (changeDirectory operands.head? io sh).shell.aborted = _
      rcases operands.head? with _ | target
      · exact Shell.Respected.aborted.write io sh _
      · rcases hgo : goTo sh target with failure | moved
        · simp only [changeDirectory, hgo]
        · obtain ⟨found, host, -, hmoves, rfl⟩ := goTo_eq_ok.1 hgo
          obtain ⟨-, found', -, -, rfl⟩ := Host.changeDirectory_eq_ok.1 hmoves
          simp only [changeDirectory, hgo]
          rfl
    | quit => rfl
    | jobs => exact Shell.Respected.aborted.write io sh.reap.1 _
    | clr | dir | environ | echo | help | pause => exact absurd (by decide) hcalm

/-- What is said of its arguments may. -/
theorem aborted_run (b : Builtin) (arguments : List String) (io : Streams) (sh : Shell) :
    (b.run arguments io sh).shell.aborted = true ↔ sh.aborted = true ∨
      ∃ message, b.read arguments = .rejected message ∧
        sh.errors.Refuses (trimBlankEnd message ++ "\n") := by
  rcases hread : b.read arguments with operands | _ | message
  · rw [run_shell_of_accepted hread, aborted_perform]
    simp
  · have hrun : (b.run arguments io sh).shell.aborted = sh.aborted := by
      unfold run
      rw [hread]
      exact Shell.Respected.aborted.write io sh _
    rw [hrun]
    simp
  · have hrun : (b.run arguments io sh).shell = sh.complain (trimBlankEnd message ++ "\n") := by
      unfold run
      rw [hread]
    rw [hrun, Shell.aborted_complain]
    simp

end Builtin

namespace ProgramCommand

/-- What is told of a job that a program becomes. -/
theorem aborted_run (c : ProgramCommand) (io : Streams) (sh : Shell) :
    (c.run io sh).shell.aborted = true ↔ sh.aborted = true ∨
      ∃ request pid started, c.Asks io sh request ∧
        sh.host.spawn request = .ok (pid, started) ∧ c.background = true ∧
        started.world.terminal.output.Refuses (notice pid) := by
  -- Something is told only of a child that is not waited for.
  by_cases hjob : ∃ request pid started, c.Asks io sh request ∧
      sh.host.spawn request = .ok (pid, started) ∧ c.background = true
  · obtain ⟨request, pid, started, hasks, hspawn, hbackground⟩ := hjob
    rw [run_of_recorded hasks hspawn hbackground]
    have hshell : Shell.aborted { sh with host := started } = sh.aborted :=
      congrArg ShellProcess.aborted (Host.spawn_shell hspawn)
    have hrecord : (c.record pid { sh with host := started }).aborted = true ↔
        sh.aborted = true ∨ started.world.terminal.output.Refuses (notice pid) := by
      rw [← hshell]
      exact Shell.aborted_print
    rw [hrecord]
    refine or_congr_right ⟨fun h => ⟨request, pid, started, hasks, hspawn, hbackground, h⟩, ?_⟩
    rintro ⟨request', pid', started', hasks', hspawn', -, hrefuses⟩
    obtain rfl := hasks.unique hasks'
    obtain ⟨rfl, rfl⟩ := Prod.mk.inj (Except.ok.inj (hspawn.symm.trans hspawn'))
    exact hrefuses
  · have hrun : (c.run io sh).shell.aborted = sh.aborted := by
      have hcourse := c.run_course io sh
      generalize c.run io sh = o at hcourse
      cases hcourse with
      | missing | stuck | refused => rfl
      | recorded hasks hspawn hbackground =>
        exact absurd ⟨_, _, _, hasks, hspawn, hbackground⟩ hjob
      | awaited _ hspawn _ hwait =>
        have hstarted := Shell.Respected.aborted.spawn hspawn
        rcases hwait with ⟨status, hwait, -⟩ | ⟨cause, -, rfl, -⟩
        · exact (congrArg (·.shell.aborted) (Host.wait_world hwait)).trans hstarted
        · exact hstarted
    rw [hrun]
    constructor
    · exact .inl
    · rintro (h | ⟨request, pid, started, hasks, hspawn, hbackground, -⟩)
      · exact h
      · exact absurd ⟨request, pid, started, hasks, hspawn, hbackground⟩ hjob

end ProgramCommand

/-! ### Lines -/

namespace Shell

variable {sh : Shell} {line : String} {io : Streams} {c : StartedCommand} {left : Capture}

/-- A message of the shell about the line cannot be written while the line is executed. -/
inductive Silenced (sh : Shell) (line : String) (io : Streams) : Prop
  /-- It would have been about arguments that a built-in command does not take. -/
  | misused {message : String} : sh.Rejects line message →
      sh.errors.Refuses (trimBlankEnd message ++ "\n") → Silenced sh line io
  /-- It would have been about a new job. -/
  | recorded {c : StartedCommand} {request : Launch} {pid : Nat} {started : Host} :
      sh.Starts line c → Builtin.ofName? c.name = none → c.background = true →
      c.program.Asks (c.opened.streams io) (sh.withFiles c.files) request →
      (sh.withFiles c.files).host.spawn request = .ok (pid, started) →
      started.world.terminal.output.Refuses (ProgramCommand.notice pid) → Silenced sh line io

/-- Whether a line of a built-in command is silenced is a matter of its arguments. -/
theorem Starts.silenced_builtin {b : Builtin} (h : sh.Starts line c)
    (hname : Builtin.ofName? c.name = some b) : sh.Silenced line io ↔
      ∃ message, b.read c.arguments = .rejected message ∧
        sh.errors.Refuses (trimBlankEnd message ++ "\n") := by
  constructor
  · rintro (⟨⟨c', b', hstarts, hname', hread⟩, hrefuses⟩ | ⟨hstarts, hforeign, -⟩)
    · obtain rfl := h.unique hstarts
      obtain rfl := Option.some.inj (hname.symm.trans hname')
      exact ⟨_, hread, hrefuses⟩
    · obtain rfl := h.unique hstarts
      rw [hname] at hforeign
      cases hforeign
  · rintro ⟨message, hread, hrefuses⟩
    exact .misused ⟨c, b, h, hname, hread⟩ hrefuses

/-- Whether one of a program is, is a matter of its job. -/
theorem Starts.silenced_program (h : sh.Starts line c) (hname : Builtin.ofName? c.name = none) :
    sh.Silenced line io ↔ ∃ request pid started,
      c.program.Asks (c.opened.streams io) (sh.withFiles c.files) request ∧
      (sh.withFiles c.files).host.spawn request = .ok (pid, started) ∧
      c.program.background = true ∧
      started.world.terminal.output.Refuses (ProgramCommand.notice pid) := by
  constructor
  · rintro (⟨⟨c', b, hstarts, hname', -⟩, -⟩ |
      ⟨hstarts, -, hbackground, hasks, hspawn, hrefuses⟩)
    · obtain rfl := h.unique hstarts
      rw [hname] at hname'
      cases hname'
    · obtain rfl := h.unique hstarts
      exact ⟨_, _, _, hasks, hspawn, hbackground, hrefuses⟩
  · rintro ⟨request, pid, started, hasks, hspawn, hbackground, hrefuses⟩
    exact .recorded h hname hbackground hasks hspawn hrefuses

/-- **Executing a line** ends the process exactly if a message about it cannot be written. -/
theorem execute_aborted_iff (sh : Shell) (line : String) (io : Streams) :
    (sh.execute line io).shell.aborted = true ↔ sh.aborted = true ∨ sh.Silenced line io := by
  rcases sh.starts_or_not line with ⟨c, hstarts⟩ | ⟨result, files, hnothing⟩
  · rw [execute_of_starts hstarts]
    rcases hname : Builtin.ofName? c.name with _ | b
    · rw [outcomeOf_program hname, hstarts.silenced_program hname]
      exact ProgramCommand.aborted_run ..
    · rw [outcomeOf_builtin hname, hstarts.silenced_builtin hname]
      exact Builtin.aborted_run ..
  · rw [hnothing.execute_eq io]
    refine (or_iff_left ?_).symm
    rintro (⟨⟨c, b, hstarts, -⟩, -⟩ | ⟨hstarts, -⟩)
    · exact hnothing.not_starts c hstarts
    · exact hnothing.not_starts _ hstarts

/-! ### Reports -/

/-- What is to be reported of the line cannot be written, after whatever its child has left. -/
def Unreported (sh : Shell) (line : String) : Prop :=
  ∃ text left, sh.Reports line text ∧ sh.Leaves line {} left ∧ left.Refuses (text ++ "\n")

theorem settle_aborted_iff {o : Outcome Failure} : (settle o).2.aborted = true ↔
    o.shell.aborted = true ∨ ∃ failure, o.result = .error failure ∧ failure.isFatal = false ∧
      o.shell.errors.Refuses (failure.message ++ "\n") := by
  rcases hresult : o.result with failure | code
  · rcases hfatal : failure.isFatal <;> simp [settle, hresult, hfatal, aborted_complain]
  · simp [settle, hresult]

/-- **Running a line** ends the process exactly if a message about it, or what is to be reported of
    it, cannot be written. -/
theorem settle_execute_aborted_iff (sh : Shell) (line : String) :
    (settle (sh.execute line {})).2.aborted = true ↔
      sh.aborted = true ∨ sh.Silenced line {} ∨ sh.Unreported line := by
  rw [settle_aborted_iff, execute_aborted_iff, or_assoc]
  refine or_congr_right ?_
  -- By the time of the report, standard error output is what the line's child left.
  constructor
  · rintro (hsilenced | ⟨failure, hresult, hgoes, hrefuses⟩)
    · exact .inl hsilenced
    · obtain ⟨left, hleaves⟩ := sh.exists_leaves line {}
      rw [hleaves.errors_eq hresult] at hrefuses
      exact .inr ⟨failure.message, left, .failed hresult hgoes, hleaves, hrefuses⟩
  · rintro (hsilenced | ⟨text, left, hreports, hleaves, hrefuses⟩)
    · exact .inl hsilenced
    · cases hreports with
      | failed hresult hgoes =>
        rw [← hleaves.errors_eq hresult] at hrefuses
        exact .inr ⟨_, hresult, hgoes, hrefuses⟩
      | misused hrejects =>
        rw [hrejects.leaves_eq hleaves] at hrefuses
        exact .inl (.misused hrejects hrefuses)

end Shell

end CommandShell

import CommandShell.Proofs.StartedCommand

namespace CommandShell

/-!
# SpawnedPrograms — what becomes of a command that is run by a program

Its program is to be found, what the shell wrote before is to be passed on, and then the system is
asked for a child, which it may refuse:

* `ProgramCommand.Asks` — the command gets as far as asking for a child;
* `ProgramCommand.Course` — the five ways that such a command can go;
  `ProgramCommand.run_course` — it goes one of them;
* `ProgramCommand.run_of_refused`, `ProgramCommand.run_of_recorded` — two of them, the other way
  round;
* `Host.spawn_pid` — the process id of a child;
* `Shell.outcomeOf_foreign` — the commands of a line that are run by programs.
-/

namespace Host

/-- **A child** gets the id that is next, and no process gets it again. -/
theorem spawn_pid {h started : Host} {request : Launch} {pid : Nat}
    (hspawn : h.spawn request = .ok (pid, started)) :
    pid = h.world.nextPid ∧ h.world.nextPid < started.world.nextPid ∧
      ∃ child ∈ started.children, child.pid = pid := by
  unfold spawn at hspawn
  split_ifs at hspawn
  split at hspawn
  · cases hspawn
  · cases hspawn
    exact ⟨rfl, Nat.lt_of_lt_of_le (Nat.lt_succ_self _) (Nat.le_max_right ..), _,
      List.mem_append_right _ (List.mem_singleton_self _), rfl⟩

/-- A request without NUL bytes is met if the child can start. -/
theorem exists_spawn {h : Host} {request : Launch} {ended : Ended}
    (hnul : request.hasNul = false) (hstart : h.start request = .ok ended) :
    ∃ pid started, h.spawn request = .ok (pid, started) := by
  unfold spawn
  rw [hnul, hstart]
  exact ⟨_, _, rfl⟩

end Host

/-- The program that a command asks for, if its name is that of no built-in command. -/
def StartedCommand.program (c : StartedCommand) : ProgramCommand :=
  ⟨c.name, c.arguments, c.background⟩

namespace ProgramCommand

variable {c : ProgramCommand} {io : Streams} {sh : Shell} {request : Launch}

/-- The command gets as far as asking for a child. -/
structure Asks (c : ProgramCommand) (io : Streams) (sh : Shell) (request : Launch) : Prop where
  /-- Its program is found. -/
  found : ∃ program, c.program? sh = some program ∧ request = c.request program io sh
  /-- What the shell wrote before is passed on. -/
  flushed : Streams.flush {} sh = .ok ()

/-- What the command asks for is a matter of its shell and streams. -/
theorem Asks.unique {request' : Launch} (h : c.Asks io sh request) (h' : c.Asks io sh request') :
    request = request' := by
  obtain ⟨program, hfound, rfl⟩ := h.found
  obtain ⟨program', hfound', rfl⟩ := h'.found
  obtain rfl := Option.some.inj (hfound.symm.trans hfound')
  rfl

/-- The ways that the command can go, and what comes of each. -/
inductive Course (c : ProgramCommand) (io : Streams) (sh : Shell) : Outcome CommandError → Prop
  /-- There is no program of its name. -/
  | missing : c.program? sh = none →
      Course c io sh ⟨.error (.ofFailure (.launch c.name .commandNotFound)), io, sh⟩
  /-- What the shell wrote before cannot be passed on. -/
  | stuck {failure : CommandError} : Streams.flush {} sh = .error failure →
      Course c io sh ⟨.error failure, io, sh⟩
  /-- The system refuses the child. -/
  | refused {request : Launch} {cause : IoError} : c.Asks io sh request →
      sh.host.spawn request = .error cause →
      Course c io sh ⟨.error (.ofFailure (c.refusal cause)), io, sh⟩
  /-- The child is recorded as a job. -/
  | recorded {request : Launch} {pid : Nat} {started : Host} : c.Asks io sh request →
      sh.host.spawn request = .ok (pid, started) → c.background = true →
      Course c io sh ⟨.ok 0, io, c.record pid { sh with host := started }⟩
  /-- The shell waits for the child, or finds that it cannot. -/
  | awaited {request : Launch} {pid : Nat} {started host : Host}
      {result : Except CommandError ExitCode} : c.Asks io sh request →
      sh.host.spawn request = .ok (pid, started) → c.background = false →
      (∃ status, started.wait pid = .ok (status, host) ∧ result = .ok status.exitCode) ∨
        (∃ cause, started.wait pid = .error cause ∧ host = started ∧
          result = .error (.ofIo cause)) →
      Course c io sh ⟨result, io, { sh with host }⟩

/-- **The command** goes one of these ways. -/
theorem run_course (c : ProgramCommand) (io : Streams) (sh : Shell) :
    c.Course io sh (c.run io sh) := by
  -- The cases are those of the four requests, in the order in which they are made.
  unfold run
  rcases hprogram : c.program? sh with _ | program
  · exact .missing hprogram
  · rcases hflush : Streams.flush {} sh with failure | ⟨⟩
    · exact .stuck hflush
    · have hasks : c.Asks io sh (c.request program io sh) := ⟨⟨program, hprogram, rfl⟩, hflush⟩
      rcases hspawn : sh.host.spawn (c.request program io sh) with cause | ⟨pid, started⟩
      · simp only [hspawn]
        exact .refused hasks hspawn
      · simp only [hspawn]
        cases hbackground : c.background with
        | true => exact .recorded hasks hspawn hbackground
        | false =>
          rcases hwait : started.wait pid with cause | ⟨status, host⟩
          · exact .awaited hasks hspawn hbackground (.inr ⟨cause, hwait, rfl, rfl⟩)
          · exact .awaited hasks hspawn hbackground (.inl ⟨status, hwait, rfl⟩)

/-- Where the child is refused, nothing else happens. -/
theorem run_of_refused {cause : IoError} (h : c.Asks io sh request)
    (hspawn : sh.host.spawn request = .error cause) :
    c.run io sh = ⟨.error (.ofFailure (c.refusal cause)), io, sh⟩ := by
  obtain ⟨⟨program, hprogram, rfl⟩, hflush⟩ := h
  unfold run
  simp only [hprogram, hflush, hspawn]

/-- A child that nobody waits for is recorded. -/
theorem run_of_recorded {pid : Nat} {started : Host} (h : c.Asks io sh request)
    (hspawn : sh.host.spawn request = .ok (pid, started)) (hbackground : c.background = true) :
    c.run io sh = ⟨.ok 0, io, c.record pid { sh with host := started }⟩ := by
  obtain ⟨⟨program, hprogram, rfl⟩, hflush⟩ := h
  unfold run
  simp only [hprogram, hflush, hspawn, hbackground, if_true]

end ProgramCommand

/-! ### Names of programs -/

/-- The names that call no built-in command. -/
theorem Builtin.ofName?_eq_none_iff {word : String} :
    ofName? word = none ↔ word ∉ all.map name := by
  simp only [ofName?, List.find?_eq_none, decide_eq_true_iff, List.mem_map, not_exists, not_and]

/-- What such a name calls is a program. -/
theorem Shell.outcomeOf_foreign {c : StartedCommand} (h : c.name ∉ Builtin.all.map Builtin.name)
    (sh : Shell) (io : Streams) :
    sh.outcomeOf c io = c.program.run (c.opened.streams io) (sh.withFiles c.files) :=
  outcomeOf_program (Builtin.ofName?_eq_none_iff.2 h) sh io

end CommandShell

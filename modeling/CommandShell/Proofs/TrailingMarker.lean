import CommandShell.Proofs.BackgroundJobs

namespace CommandShell

/-!
# TrailingMarker — a line with the marker put after it

The marker at the end of a line says whether the shell waits, and nothing else:

* `CommandLine.parse_marker` — how a line is read with the marker after it;
* `ProgramCommand.left` — a command that is not waited for; `ProgramCommand.left_asks_iff` — it asks
  for the same child;
* `ProgramCommand.run_left_of_spawned` — what is different once there is a child;
* `Shell.execute_marker` — two runs side by side, of a line without the marker and with it.
-/

/-! ### Reading -/

/-- A word at the end is interleaved as the last one. -/
theorem Interleaving.concat {list tokens : List String} {redirections : List Redirection}
    (h : Interleaving list redirections tokens) (last : String) :
    Interleaving (list ++ [last]) redirections (tokens ++ [last]) := by
  induction h with
  | nil => exact .word last .nil
  | word first _ ih => exact .word first ih
  | directive r _ ih => exact .directive r ih

/-- The marker is a word of its own after a space. -/
theorem words_marker (line : String) : words (line ++ " &") = words line ++ ["&"] := by
  have hmarker : IsWord "&" := ⟨by decide, by simp [isDelimiter]⟩
  have hspace : " &" = " " ++ "&" := by decide
  rw [hspace, ← String.append_assoc, words_append_space, words_of_isWord hmarker]

namespace CommandLine

variable {line : String} {c : CommandLine}

/-- A spelling with the marker after it spells the same command line, not waited for. -/
theorem Spells.marker {tokens : List String} (h : c.Spells tokens) (hwaits : c.background = false) :
    ({ c with background := true } : CommandLine).Spells (tokens ++ ["&"]) := by
  obtain ⟨hinter, hplain, -⟩ := h
  have hmarked : c.marked = c.words := by simp [marked, hwaits]
  rw [hmarked] at hinter hplain
  refine ⟨hinter.concat "&", fun word hword => ?_, fun hnone => ?_⟩
  · rcases List.mem_append.1 hword with hword | hword
    · exact hplain word hword
    · rw [List.mem_singleton.1 hword]
      decide
  · cases hnone

/-- **Reading.** With the marker after it, a line that has none is read as the same command line,
    not waited for. -/
theorem parse_marker (h : parse line = .ok (some c)) (hwaits : c.background = false) :
    parse (line ++ " &") = .ok (some { c with background := true }) := by
  obtain ⟨-, hread⟩ := parse_eq_some_iff.1 h
  rw [parse_eq_some_iff, words_marker]
  exact ⟨by simp, ofWords_eq_ok_iff.2 ((ofWords_eq_ok_iff.1 hread).marker hwaits)⟩

end CommandLine

/-! ### Programs -/

/-- A child can be waited for. -/
theorem Host.wait_of_spawn {h started : Host} {request : Launch} {pid : Nat}
    (hspawn : h.spawn request = .ok (pid, started)) :
    ∃ status host, started.wait pid = .ok (status, host) := by
  obtain ⟨-, -, child, hchild, hpid⟩ := spawn_pid hspawn
  unfold wait
  rcases hfind : started.child? pid with _ | found
  · exact absurd (decide_eq_true hpid) (List.find?_eq_none.1 hfind child hchild)
  · exact ⟨_, _, rfl⟩

namespace ProgramCommand

variable {c : ProgramCommand} {io : Streams} {sh : Shell} {request : Launch}

/-- The command without waiting for it. -/
def left (c : ProgramCommand) : ProgramCommand := { c with background := true }

/-- It asks for the same child. -/
theorem left_asks_iff : c.left.Asks io sh request ↔ c.Asks io sh request :=
  ⟨fun h => ⟨h.found, h.flushed⟩, fun h => ⟨h.found, h.flushed⟩⟩

/-- What the child is, is said by the command, the session and the streams. -/
theorem Asks.request_eq (h : c.Asks io sh request) :
    c.program? sh = some request.program ∧
      request.arguments = (c.name :: c.arguments).map Bytes.ofString ∧
      request.vars = sh.session.vars ∧ request.directory = sh.session.directory ∧
      request.input = io.input ∧ request.output = io.output := by
  obtain ⟨⟨program, hprogram, rfl⟩, -⟩ := h
  exact ⟨hprogram, rfl, rfl, rfl, rfl, rfl⟩

/-- Where no child is asked for, the command fails, and it does so whether it is waited for or
    not. -/
theorem run_left_of_not_asks (h : ∀ request, ¬ c.Asks io sh request) :
    ∃ failure, c.run io sh = ⟨.error failure, io, sh⟩ ∧
      c.left.run io sh = ⟨.error failure, io, sh⟩ := by
  have hsame : c.left.program? sh = c.program? sh := rfl
  unfold run
  rw [hsame]
  rcases hprogram : c.program? sh with _ | program
  · exact ⟨_, rfl, rfl⟩
  · rcases hflush : Streams.flush {} sh with failure | ⟨⟩
    · exact ⟨failure, rfl, rfl⟩
    · exact absurd ⟨⟨program, hprogram, rfl⟩, hflush⟩ (h _)

/-- **Once there is a child**, the shell returns what the child returns, or it records the child
    and succeeds. -/
theorem run_left_of_spawned {pid : Nat} {started : Host} (h : c.Asks io sh request)
    (hwaits : c.background = false) (hspawn : sh.host.spawn request = .ok (pid, started)) :
    (∃ status host, started.wait pid = .ok (status, host) ∧
      c.run io sh = ⟨.ok status.exitCode, io, { sh with host }⟩) ∧
    c.left.run io sh = ⟨.ok 0, io, c.record pid { sh with host := started }⟩ := by
  refine ⟨?_, run_of_recorded (left_asks_iff.2 h) hspawn rfl⟩
  obtain ⟨status, host, hwait⟩ := Host.wait_of_spawn hspawn
  refine ⟨status, host, hwait, ?_⟩
  obtain ⟨⟨program, hprogram, rfl⟩, hflush⟩ := h
  unfold run
  simp only [hprogram, hflush, hspawn, hwaits, hwait, Bool.false_eq_true, if_false]

end ProgramCommand

/-! ### Lines -/

/-- Streams that nothing was done to are given back. -/
theorem OpenedFiles.restore_streams (opened : OpenedFiles) (io : Streams) :
    opened.restore io (opened.streams io) = io := by
  rcases opened with ⟨_ | input, _ | output⟩ <;> rfl

namespace Shell

variable {sh : Shell} {line name : String} {io : Streams} {c : StartedCommand}

/-- A line that starts a command starts it with the marker after it too. -/
theorem Starts.marker (h : sh.Starts line c) (hwaits : c.background = false) :
    sh.Starts (line ++ " &") { c with background := true } :=
  ⟨CommandLine.parse_marker h.reads hwaits, h.opens⟩

/-- For a built-in command the marker makes no difference. -/
theorem execute_marker_of_builtin (h : sh.Starts line c) (hwaits : c.background = false)
    (hbuiltin : c.name ∈ Builtin.all.map Builtin.name) (io : Streams) :
    sh.execute (line ++ " &") io = sh.execute line io := by
  obtain ⟨b, -, hname⟩ := List.mem_map.1 hbuiltin
  have hcalls : Builtin.ofName? c.name = some b := hname ▸ ofName?_name b
  rw [execute_of_starts h, execute_of_starts (h.marker hwaits), outcomeOf_builtin hcalls,
    outcomeOf_builtin (c := { c with background := true }) hcalls]

/-- A line that starts a program has the outcome of that, and its own streams back. -/
theorem execute_of_program {o : Outcome CommandError} (h : sh.Starts line c)
    (hforeign : c.name ∉ Builtin.all.map Builtin.name)
    (hrun : c.program.run (c.opened.streams io) (sh.withFiles c.files) = o)
    (hstreams : o.streams = c.opened.streams io) :
    sh.execute line io = ⟨o.result.mapError CommandError.classify, io, o.shell⟩ := by
  rw [execute_of_starts h, outcomeOf_foreign hforeign, hrun, hstreams,
    OpenedFiles.restore_streams]

/-- **The marker after a line** that has none, and that has a command, says whether the shell waits
    and nothing else. With and without it, in any shell and on any streams,

* the line is read as the same command with the same directives, and a directive whose file cannot
  be opened ends it in the same way;
* a built-in command does the same;
* a program asks for the same child: the same program, called by its name as typed with the same
  arguments, with the variables and the directory of the session, on the same streams;
* where no child is asked for, or the system refuses it, the failure is the same, and so is the
  rest.

Where the system makes the child, the files and the streams are the same until then. Without the
marker the shell waits for the child and returns its code. With the marker, the child is recorded as
a job instead, the standard output of the shell's process gets the notice with its process id, and
the code is zero. -/
theorem execute_marker {arguments : List String} {redirections : List Redirection}
    (hread : CommandLine.parse line = .ok (some ⟨name :: arguments, redirections, false⟩))
    (sh : Shell) (io : Streams) :
    let marked := line ++ " &"
    CommandLine.parse marked = .ok (some ⟨name :: arguments, redirections, true⟩) ∧
    (∀ files r cause, sh.Refuses redirections files r cause →
      sh.execute line io = ⟨.error (r.refusal cause), io, sh.withFiles files⟩ ∧
      sh.execute marked io = ⟨.error (r.refusal cause), io, sh.withFiles files⟩) ∧
    (name ∈ Builtin.all.map Builtin.name → sh.execute marked io = sh.execute line io) ∧
    (name ∉ Builtin.all.map Builtin.name → ∀ files opened, sh.Opens redirections files opened →
      let c : ProgramCommand := ⟨name, arguments, false⟩
      let begun := sh.withFiles files
      let streams := opened.streams io
      ((∀ request, ¬ c.Asks streams begun request) → ∃ failure,
        sh.execute line io = ⟨.error failure, io, begun⟩ ∧
        sh.execute marked io = ⟨.error failure, io, begun⟩) ∧
      ∀ request,
        (c.left.Asks streams begun request ↔ c.Asks streams begun request) ∧
        (c.Asks streams begun request →
          (c.program? begun = some request.program ∧
            request.arguments = (name :: arguments).map Bytes.ofString ∧
            request.vars = sh.session.vars ∧ request.directory = sh.session.directory ∧
            request.input = streams.input ∧ request.output = streams.output) ∧
          (∀ cause, begun.host.spawn request = .error cause →
            sh.execute line io = ⟨.error (c.refusal cause), io, begun⟩ ∧
            sh.execute marked io = ⟨.error (c.refusal cause), io, begun⟩) ∧
          (∀ pid started, begun.host.spawn request = .ok (pid, started) →
            (∃ status host, started.wait pid = .ok (status, host) ∧
              sh.execute line io = ⟨.ok status.exitCode, io, { session := sh.session, host }⟩) ∧
            let jobs := JobTable.add sh.session.jobs pid c.text
            let notice := "[Running in background] PID: " ++ toString pid ++ "\n"
            let told := started.print notice
            let output := started.world.terminal.output
            sh.execute marked io
              = ⟨.ok 0, io, { session := { sh.session with jobs }, host := told }⟩ ∧
            told.world.terminal.output = (output.put (Bytes.ofString notice)).2 ∧
            (output.room = none →
              told.world.terminal.output.written
                = output.written ++ Bytes.ofString notice)))) := by
  have hmarked := CommandLine.parse_marker hread rfl
  refine ⟨hmarked, fun files r cause hrefused => ⟨?_, ?_⟩, fun hbuiltin => ?_, ?_⟩
  · exact (StartsNothing.refused hread hrefused).execute_eq io
  · exact (StartsNothing.refused hmarked hrefused).execute_eq io
  · rcases executeParsed_cases sh ⟨name :: arguments, redirections, false⟩ with
      ⟨files, opened, hopens⟩ | ⟨files, r, cause, hrefused⟩
    · have hstarts : sh.Starts line ⟨name, arguments, redirections, false, files, opened⟩ :=
        ⟨hread, hopens⟩
      exact execute_marker_of_builtin hstarts rfl hbuiltin io
    · rw [(StartsNothing.refused hread hrefused).execute_eq io]
      exact (StartsNothing.refused hmarked hrefused).execute_eq io
  · intro hforeign files opened hopens c begun streams
    have hstarts : sh.Starts line ⟨name, arguments, redirections, false, files, opened⟩ :=
      ⟨hread, hopens⟩
    have hwith := hstarts.marker rfl
    refine ⟨fun hnone => ?_, fun request => ⟨ProgramCommand.left_asks_iff, fun hasks => ?_⟩⟩
    · obtain ⟨failure, hrun, hleft⟩ := ProgramCommand.run_left_of_not_asks hnone
      exact ⟨_, execute_of_program hstarts hforeign hrun rfl,
        execute_of_program hwith hforeign hleft rfl⟩
    · have hasks' := ProgramCommand.left_asks_iff.2 hasks
      refine ⟨hasks.request_eq, fun cause hspawn => ⟨?_, ?_⟩, fun pid started hspawn => ?_⟩
      · exact execute_of_program hstarts hforeign (c.run_of_refused hasks hspawn) rfl
      · exact execute_of_program hwith hforeign (c.left.run_of_refused hasks' hspawn) rfl
      · obtain ⟨⟨status, host, hwait, hrun⟩, hleft⟩ :=
          ProgramCommand.run_left_of_spawned hasks rfl hspawn
        exact ⟨⟨status, host, hwait, execute_of_program hstarts hforeign hrun rfl⟩,
          execute_of_program hwith hforeign hleft rfl, Host.print_output started _,
          fun hroom => Host.print_written hroom _⟩

end Shell

namespace Sample

/-- A copy of nothing succeeds at once with the marker, and else it is waited for. -/
theorem cat_marked : CommandLine.parse "/cat" = .ok (some ⟨["/cat"], [], false⟩) ∧
    (shell.execute "/cat &" { input := .nothing }).result = .ok 0 ∧
    ∃ status : Status,
      (shell.execute "/cat" { input := .nothing }).result = .ok status.exitCode := by
  have hread : CommandLine.parse "/cat" = .ok (some ⟨["/cat"], [], false⟩) := by decide +kernel
  obtain ⟨pid, started, hstarts⟩ := startsJob_idle
  obtain ⟨request, hasks, hspawn⟩ := hstarts.spawned
  obtain ⟨-, -, -, hprogram⟩ := Shell.execute_marker hread shell { input := .nothing }
  obtain ⟨-, hsame⟩ := hprogram (by decide) files {} .nil
  obtain ⟨-, -, hmade⟩ := (hsame request).2 ((hsame request).1.1 hasks)
  obtain ⟨⟨status, host, -, hwaited⟩, hmarked, -⟩ := hmade pid started hspawn
  exact ⟨hread, congrArg Outcome.result hmarked, status, congrArg Outcome.result hwaited⟩

end Sample

end CommandShell

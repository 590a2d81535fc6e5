import CommandShell.Proofs.CanonicalPaths
import CommandShell.Proofs.JobRegistry
import CommandShell.Proofs.LineFrame
import CommandShell.Proofs.LineWords
import CommandShell.Proofs.RedirectedOutput
import CommandShell.Proofs.SpawnedPrograms

namespace CommandShell

/-!
# BackgroundJobs — which lines make jobs, and which drop them

A line with the marker at its end makes a job, if it starts a program and the system makes a child
for it. `jobs` drops those that have ended. No other line does anything to the jobs:

* `Shell.KeepsJobs` — the jobs stay;
* `Builtin.perform_keepsJobs` — the built-in commands that keep them;
* `Shell.StartsJob`, `Shell.ListsJobs` — the lines that do not;
* `Shell.execute_jobEffect` — one of the three happens to every line;
* `Shell.StartsJob.execute_eq`, `Shell.ListsJobs.execute_eq` — what comes of the other two;
* `Shell.Starts.words_text` — the text of a job comes apart into the words of its command;
* `Shell.Tracked` — no job has a process id that is still to be given; `Shell.execute_tracked` —
  that stays so;
* `Host.print_output`, `Host.print_written` — what a message adds to the standard output;
* `Shell.execute_jobs` — what a line does to the jobs, and what they are recorded as.
-/

/-- The words that are interleaved with directives are all there. -/
theorem Interleaving.mem {list tokens : List String} {redirections : List Redirection}
    {word : String} (h : Interleaving list redirections tokens) (hword : word ∈ list) :
    word ∈ tokens := by
  induction h with
  | nil => cases hword
  | word first _ ih =>
    rcases List.mem_cons.1 hword with rfl | hword
    · exact List.mem_cons_self
    · exact List.mem_cons_of_mem _ (ih hword)
  | directive r _ ih => exact List.mem_cons_of_mem _ (List.mem_cons_of_mem _ (ih hword))

/-! ### What keeps the jobs -/

theorem Outlet.write_nextPid (outlet : Outlet) (w : World) (bytes : Bytes) :
    (outlet.write w bytes).2.2.nextPid = w.nextPid := by
  rcases outlet with _ | _ | _ | _ | handle
  case file =>
    unfold write
    simp only
    rcases w.files.write handle.node _ bytes with reason | files <;> rfl
  all_goals rfl

theorem Inlet.readBy_nextPid (inlet : Inlet) (w : World)
    (reader : Supply → Except Errno Bytes × Supply) :
    (inlet.readBy w reader).2.2.nextPid = w.nextPid := by
  rcases inlet with _ | _ | _ | handle
  case file =>
    unfold readBy
    simp only
    rcases w.files.content handle.node with reason | content <;> rfl
  all_goals rfl

theorem Host.wait_nextPid {h host : Host} {pid : Nat} {status : Status}
    (hwait : h.wait pid = .ok (status, host)) : host.world.nextPid = h.world.nextPid := by
  unfold wait at hwait
  split at hwait
  · cases hwait
  · cases hwait
    rfl

/-- A message to the standard output of the shell's process is put there, and nowhere else. -/
theorem Host.print_output (h : Host) (text : String) :
    (h.print text).world.terminal.output
      = (h.world.terminal.output.put (Bytes.ofString text)).2 := rfl

/-- With room for it, it comes after all that was written there, once. -/
theorem Host.print_written {h : Host} (hroom : h.world.terminal.output.room = none)
    (text : String) :
    (h.print text).world.terminal.output.written
      = h.world.terminal.output.written ++ Bytes.ofString text := by
  rw [print_output, Capture.put_of_room hroom]
  rfl

namespace Shell

/-- What a command does that neither makes nor drops jobs: they stay, and process ids that were
    given are not given again. -/
structure KeepsJobs (before after : Shell) : Prop where
  /-- The jobs stay. -/
  jobs : after.session.jobs = before.session.jobs
  /-- The next process id does not go down. -/
  nextPid : before.host.world.nextPid ≤ after.host.world.nextPid

namespace KeepsJobs

variable {sh sh' sh'' : Shell}

theorem refl (sh : Shell) : sh.KeepsJobs sh := ⟨rfl, Nat.le_refl _⟩

theorem trans (h : sh.KeepsJobs sh') (h' : sh'.KeepsJobs sh'') : sh.KeepsJobs sh'' where
  jobs := h'.jobs.trans h.jobs
  nextPid := Nat.le_trans h.nextPid h'.nextPid

/-- Nothing of it is a matter of the files. -/
theorem withFiles (sh : Shell) (files : FileSystem) : sh.KeepsJobs (sh.withFiles files) :=
  ⟨rfl, Nat.le_refl _⟩

/-- Nor of the terminal. -/
theorem write (io : Streams) (sh : Shell) (bytes : Bytes) :
    sh.KeepsJobs (io.write sh bytes).2.2 :=
  ⟨rfl, Nat.le_of_eq (Outlet.write_nextPid io.output sh.host.world bytes).symm⟩

theorem complain (sh : Shell) (text : String) : sh.KeepsJobs (sh.complain text) :=
  ⟨rfl, Nat.le_refl _⟩

theorem skipLine (io : Streams) (sh : Shell) : sh.KeepsJobs (io.skipLine sh).2.2 :=
  ⟨rfl, Nat.le_of_eq (Inlet.readBy_nextPid io.input sh.host.world _).symm⟩

/-- A child on its own does not make a job. -/
theorem spawn {request : Launch} {pid : Nat} {started : Host}
    (h : sh.host.spawn request = .ok (pid, started)) :
    sh.KeepsJobs { sh with host := started } :=
  ⟨rfl, Nat.le_of_lt (Host.spawn_pid h).2.1⟩

theorem wait {host : Host} {pid : Nat} {status : Status}
    (h : sh.host.wait pid = .ok (status, host)) : sh.KeepsJobs { sh with host } :=
  ⟨rfl, Nat.le_of_eq (Host.wait_nextPid h).symm⟩

end KeepsJobs

/-- What is kept is kept by the steps of commands. -/
theorem Respected.keepsJobs : Respected KeepsJobs where
  refl := .refl
  trans := .trans
  write := .write
  skipLine := .skipLine
  spawn := .spawn
  wait := .wait

end Shell

namespace Builtin

variable {b : Builtin} {arguments operands : List String}

theorem changeDirectory_keepsJobs (operand : Option String) (io : Streams) (sh : Shell) :
    sh.KeepsJobs (changeDirectory operand io sh).shell := by
  unfold changeDirectory
  split
  · exact .write io sh _
  · split
    · exact .refl sh
    · rename_i hgo
      obtain ⟨found, host, -, hmoves, rfl⟩ := goTo_eq_ok.1 hgo
      obtain ⟨-, found', -, -, rfl⟩ := Host.changeDirectory_eq_ok.1 hmoves
      exact ⟨rfl, Nat.le_refl _⟩

/-- **Built-in commands** other than `jobs` keep the jobs. -/
theorem perform_keepsJobs (hjobs : b ≠ .jobs) (operands : List String) (io : Streams)
    (sh : Shell) : sh.KeepsJobs (b.perform operands io sh).shell := by
  by_cases hcd : b = .cd
  · subst hcd
    exact changeDirectory_keepsJobs operands.head? io sh
  · by_cases hquit : b = .quit
    · subst hquit
      exact ⟨rfl, Nat.le_refl _⟩
    · exact perform_respects .keepsJobs ⟨hcd, hquit, hjobs⟩ operands io sh

theorem jobs_read_iff :
    (∃ operands, Builtin.jobs.read arguments = .accepted operands) ↔ Signature.Free arguments :=
  read_free_iff rfl (by decide) arguments

/-- **`jobs`** drops the jobs that polling says to have ended or to be lost, and then writes a line
    for each of those that are left. -/
theorem run_jobs (h : Builtin.jobs.read arguments = .accepted operands) (io : Streams)
    (sh : Shell) :
    let wrote := io.write sh.reap.1 (Bytes.ofString (JobTable.listing sh.reap.1.session.jobs))
    (Builtin.jobs.run arguments io sh).shell = wrote.2.2 ∧
      (Builtin.jobs.run arguments io sh).streams = wrote.2.1 := by
  unfold run
  rw [h]
  dsimp only
  rw [if_neg (by decide), settle_shell, settle_streams]
  exact ⟨rfl, rfl⟩

end Builtin

/-! ### The lines that do not -/

namespace Shell

variable {sh : Shell} {line : String} {io : Streams} {c : StartedCommand} {pid : Nat}
  {started : Host}

/-- The line makes a job: it ends in the marker, it starts a program, and the system makes a child
    for that. -/
structure StartsJob (sh : Shell) (line : String) (io : Streams) (c : StartedCommand) (pid : Nat)
    (started : Host) : Prop where
  /-- The line is read as the command, and the files of its directives are opened. -/
  starts : sh.Starts line c
  /-- It ends in the marker. -/
  background : c.background = true
  /-- The name of the command is that of no built-in command. -/
  foreign : c.name ∉ Builtin.all.map Builtin.name
  /-- A child is made for it. -/
  spawned : ∃ request, c.program.Asks (c.opened.streams io) (sh.withFiles c.files) request ∧
    (sh.withFiles c.files).host.spawn request = .ok (pid, started)

/-- The line asks for the jobs. -/
structure ListsJobs (sh : Shell) (line : String) (c : StartedCommand) : Prop where
  /-- The line is read as the command, and the files of its directives are opened. -/
  starts : sh.Starts line c
  /-- The command is `jobs`, -/
  name : c.name = "jobs"
  /-- with arguments that it accepts. -/
  free : Signature.Free c.arguments

/-- What a line does to the jobs. -/
inductive JobEffect (sh : Shell) (line : String) (io : Streams) (after : Shell) : Prop
  /-- It makes one. -/
  | starts {c : StartedCommand} {pid : Nat} {started : Host} :
      sh.StartsJob line io c pid started → JobEffect sh line io after
  /-- It drops those that have ended, and shows the others. -/
  | lists {c : StartedCommand} : sh.ListsJobs line c → JobEffect sh line io after
  /-- It keeps them. -/
  | keeps : sh.KeepsJobs after → JobEffect sh line io after

/-- A program that is run as a command keeps the jobs, unless it becomes one. -/
theorem effect_of_program (h : sh.Starts line c) (hforeign : c.name ∉ Builtin.all.map Builtin.name)
    (io : Streams) : sh.JobEffect line io (sh.execute line io).shell := by
  have hfiles := KeepsJobs.withFiles sh c.files
  have hcourse := c.program.run_course (c.opened.streams io) (sh.withFiles c.files)
  rw [execute_of_starts h, outcomeOf_foreign hforeign]
  generalize c.program.run (c.opened.streams io) (sh.withFiles c.files) = o at hcourse
  -- One of the ways that it can go makes a job, and one more uses up a process id.
  cases hcourse with
  | missing | stuck | refused => exact .keeps hfiles
  | recorded hasks hspawn hbackground =>
    exact .starts ⟨h, hbackground, hforeign, _, hasks, hspawn⟩
  | awaited hasks hspawn _ hwait =>
    have hstarted := hfiles.trans (.spawn hspawn)
    rcases hwait with ⟨status, hwait, -⟩ | ⟨cause, -, rfl, -⟩
    · exact .keeps (hstarted.trans (.wait hwait))
    · exact .keeps hstarted

/-- A built-in command keeps them, unless it is `jobs`. -/
theorem effect_of_builtin {b : Builtin} (h : sh.Starts line c)
    (hname : Builtin.ofName? c.name = some b) (io : Streams) :
    sh.JobEffect line io (sh.execute line io).shell := by
  have hfiles := KeepsJobs.withFiles sh c.files
  rw [execute_of_starts h, outcomeOf_builtin hname]
  by_cases haccepted : ∃ operands, b.read c.arguments = .accepted operands
  · obtain ⟨operands, hread⟩ := haccepted
    by_cases hjobs : b = .jobs
    · subst hjobs
      exact .lists ⟨h, eq_name_of_ofName? hname, Builtin.jobs_read_iff.1 ⟨operands, hread⟩⟩
    · refine .keeps (hfiles.trans ?_)
      rw [Builtin.run_shell_of_accepted hread]
      exact Builtin.perform_keepsJobs hjobs operands ..
  · exact .keeps (hfiles.trans (Builtin.run_respects_of_not_accepted .keepsJobs
      (fun operands hread => haccepted ⟨operands, hread⟩) _ _ (.complain _)))

/-- **Every line** makes a job, or asks for the jobs, or keeps them. -/
theorem execute_jobEffect (sh : Shell) (line : String) (io : Streams) :
    sh.JobEffect line io (sh.execute line io).shell := by
  rcases sh.starts_or_not line with ⟨c, hstarts⟩ | ⟨result, files, hnothing⟩
  · rcases hname : Builtin.ofName? c.name with _ | b
    · exact effect_of_program hstarts (Builtin.ofName?_eq_none_iff.1 hname) io
    · exact effect_of_builtin hstarts hname io
  · rw [hnothing.execute_eq io]
    exact .keeps (.withFiles sh files)

/-! ### What they do -/

/-- **A line that makes a job** succeeds. The child is recorded, and the process id is told on the
    standard output of the shell's process, wherever the output of the command goes. -/
theorem StartsJob.execute_eq (h : sh.StartsJob line io c pid started) :
    sh.execute line io = ⟨.ok 0, c.opened.restore io (c.opened.streams io),
      c.program.record pid { sh.withFiles c.files with host := started }⟩ := by
  obtain ⟨request, hasks, hspawn⟩ := h.spawned
  have hrun := c.program.run_of_recorded hasks hspawn h.background
  rw [execute_of_starts h.starts, outcomeOf_foreign h.foreign, hrun]
  rfl

/-- **A line that asks for the jobs** drops those that polling says to have ended or to be lost, and
    then writes a line for each of the others. -/
theorem ListsJobs.execute_eq (h : sh.ListsJobs line c) (io : Streams) :
    let listed := (sh.withFiles c.files).reap.1
    let wrote := (c.opened.streams io).write listed
      (Bytes.ofString (JobTable.listing listed.session.jobs))
    (sh.execute line io).shell = wrote.2.2 ∧
      (sh.execute line io).streams = c.opened.restore io wrote.2.1 := by
  have hname : Builtin.ofName? c.name = some .jobs := h.name ▸ ofName?_name .jobs
  obtain ⟨operands, hread⟩ := Builtin.jobs_read_iff.2 h.free
  obtain ⟨hshell, hstreams⟩ := Builtin.run_jobs hread (c.opened.streams io) (sh.withFiles c.files)
  rw [execute_of_starts h.starts, outcomeOf_builtin hname]
  exact ⟨hshell, congrArg (c.opened.restore io) hstreams⟩

/-- The jobs that are left are those of a round of polls. -/
theorem ListsJobs.jobs_eq (h : sh.ListsJobs line c) (io : Streams) :
    (sh.execute line io).shell.session.jobs = (sh.session.jobs.reap sh.host.poll).1 := by
  rw [(h.execute_eq io).1]
  rfl

theorem ListsJobs.mem_running (h : sh.ListsJobs line c) (io : Streams) {job : Nat × String} :
    job ∈ (sh.execute line io).shell.session.jobs.running ↔
      job ∈ sh.session.jobs.running ∧ sh.host.poll job.1 = .running := by
  rw [h.jobs_eq, JobTable.running, JobTable.reap_entries, List.mem_filter, JobTable.goesOn,
    decide_eq_true_iff, JobTable.running]

/-! ### What a job is recorded as -/

/-- What is recorded of a job comes apart into the name of its command and the arguments. -/
theorem Starts.words_text (h : sh.Starts line c) :
    words c.program.text = c.name :: c.arguments := by
  obtain ⟨-, hread⟩ := CommandLine.parse_eq_some_iff.1 h.reads
  have hspells := CommandLine.ofWords_eq_ok_iff.1 hread
  refine words_intercalate fun word hword => ?_
  -- Each of them is a word of the line.
  exact isWord_of_mem_words (hspells.interleaving.mem (List.mem_append_left _ hword))

/-- The line has the marker and its directives besides, and nothing else. -/
theorem Starts.interleaving (h : sh.Starts line c) (hbackground : c.background = true) :
    Interleaving (c.name :: c.arguments ++ ["&"]) c.redirections (words line) ∧
      ∀ word ∈ c.name :: c.arguments, word ∉ ["<", ">", ">>"] := by
  obtain ⟨-, hread⟩ := CommandLine.parse_eq_some_iff.1 h.reads
  obtain ⟨hinter, hplain, -⟩ := CommandLine.ofWords_eq_ok_iff.1 hread
  rw [CommandLine.marked, hbackground] at hinter
  exact ⟨hinter, fun word hword => hplain word (List.mem_append_left _ hword)⟩

/-- The job is recorded under the process id of its child, and the other jobs stay, but for one that
    would have that process id too. -/
theorem StartsJob.mem_running (h : sh.StartsJob line io c pid started) {job : Nat × String} :
    job ∈ (sh.execute line io).shell.session.jobs.running ↔
      job = (pid, c.program.text) ∨ (job ∈ sh.session.jobs.running ∧ job.1 ≠ pid) := by
  rw [h.execute_eq]
  exact OrderedMap.mem_entries_insert

/-! ### Process ids -/

/-- No job has a process id that is still to be given. -/
def Tracked (sh : Shell) : Prop :=
  ∀ job ∈ sh.session.jobs.running, job.1 < sh.host.world.nextPid

theorem Tracked.of_keepsJobs {after : Shell} (h : sh.Tracked) (hkeeps : sh.KeepsJobs after) :
    after.Tracked := by
  intro job hjob
  rw [hkeeps.jobs] at hjob
  exact Nat.lt_of_lt_of_le (h job hjob) hkeeps.nextPid

/-- **Process ids** are never given to two jobs, whatever lines are run. -/
theorem execute_tracked (h : sh.Tracked) (line : String) (io : Streams) :
    (sh.execute line io).shell.Tracked := by
  rcases execute_jobEffect sh line io with hstarts | hlists | hkeeps
  · rename_i c pid started
    obtain ⟨request, -, hspawn⟩ := hstarts.spawned
    obtain ⟨hpid, hnext, -⟩ := Host.spawn_pid hspawn
    -- The notice does not change which process id is next.
    have hafter : (sh.execute line io).shell.host.world.nextPid = started.world.nextPid := by
      rw [hstarts.execute_eq]
      rfl
    intro job hjob
    rw [hafter]
    rcases hstarts.mem_running.1 hjob with rfl | ⟨hold, -⟩
    · exact hpid ▸ hnext
    · exact Nat.lt_trans (h job hold) hnext
  · -- The jobs that are left are some of those before.
    intro job hjob
    have hafter : (sh.execute line io).shell.host.world.nextPid = sh.host.world.nextPid := by
      rw [(hlists.execute_eq io).1]
      exact Outlet.write_nextPid ..
    rw [hafter]
    exact h job ((hlists.mem_running io).1 hjob).1
  · exact h.of_keepsJobs hkeeps

/-! ### Lines and jobs -/

/-- A job that is new was made by the line. -/
theorem exists_startsJob {job : Nat × String}
    (hjob : job ∈ (sh.execute line io).shell.session.jobs.running)
    (hnew : job ∉ sh.session.jobs.running) :
    ∃ c pid started, sh.StartsJob line io c pid started := by
  rcases execute_jobEffect sh line io with hstarts | hlists | hkeeps
  · exact ⟨_, _, _, hstarts⟩
  · exact absurd ((hlists.mem_running io).1 hjob).1 hnew
  · rw [hkeeps.jobs] at hjob
    exact absurd hjob hnew

/-- No job from before has the process id of a child that is made now. -/
theorem StartsJob.ne_pid (hfree : sh.host.world.nextPid ∉ JobTable.pids sh.session.jobs)
    (h : sh.StartsJob line io c pid started) {job : Nat × String}
    (hjob : job ∈ sh.session.jobs.running) : job.1 ≠ pid := by
  obtain ⟨request, -, hspawn⟩ := h.spawned
  rw [(Host.spawn_pid hspawn).1]
  exact ne_of_mem_of_not_mem (List.mem_map_of_mem (f := (·.1)) hjob) hfree

/-- A job that is gone was dropped by `jobs`. -/
theorem exists_listsJobs (hfree : sh.host.world.nextPid ∉ JobTable.pids sh.session.jobs)
    {job : Nat × String} (hjob : job ∈ sh.session.jobs.running)
    (hgone : job ∉ (sh.execute line io).shell.session.jobs.running) :
    ∃ c, sh.ListsJobs line c := by
  rcases execute_jobEffect sh line io with hstarts | hlists | hkeeps
  · exact absurd (hstarts.mem_running.2 (.inr ⟨hjob, StartsJob.ne_pid hfree hstarts hjob⟩)) hgone
  · exact ⟨_, hlists⟩
  · rw [hkeeps.jobs] at hgone
    exact absurd hjob hgone

/-- **What a line does to the jobs**, as long as the system gives no process id of a job to another
    process.

* There is a new job exactly if the line makes one. Then it is the only one. It has the process id
  of the child, and its text comes apart into the words of the command: into all that the line has
  but for its directives and for the marker at its end. The line succeeds, and all that happens
  after the child was made is that its process id is told: the standard output of the shell's
  process gets the notice with it, once, wherever the output of the command goes.
* Jobs are dropped by `jobs` only. It drops exactly those that polling does not say to be running,
  and then writes a line for each of the others to the output of the command.
* The jobs are in ascending order of their process ids, and if none of them is still to be given,
  that stays so. -/
theorem execute_jobs (hfree : sh.host.world.nextPid ∉ JobTable.pids sh.session.jobs)
    (line : String) (io : Streams) :
    let o := sh.execute line io
    let before := sh.session.jobs.running
    let after := o.shell.session.jobs.running
    ((∃ job ∈ after, job ∉ before) ↔ ∃ c pid started, sh.StartsJob line io c pid started) ∧
    (∀ c pid started, sh.StartsJob line io c pid started → ∃ text,
      (∀ job, job ∈ after ↔ job ∈ before ∨ job = (pid, text)) ∧ (pid, text) ∉ before ∧
      words text = c.name :: c.arguments ∧ (∀ word ∈ words text, word ∉ ["<", ">", ">>"]) ∧
      Interleaving (words text ++ ["&"]) c.redirections (words line) ∧
      (∃ child ∈ started.children, child.pid = pid) ∧
      o.result = .ok 0 ∧
      let notice := "[Running in background] PID: " ++ toString pid ++ "\n"
      let output := started.world.terminal.output
      o.shell.host = started.print notice ∧
      o.shell.host.world.terminal.output = (output.put (Bytes.ofString notice)).2 ∧
      (output.room = none → o.shell.host.world.terminal.output.written
        = output.written ++ Bytes.ofString notice)) ∧
    ((∃ job ∈ before, job ∉ after) → ∃ c, sh.ListsJobs line c) ∧
    (∀ c, sh.ListsJobs line c →
      (∀ job, job ∈ after ↔ job ∈ before ∧ sh.host.poll job.1 = .running) ∧
      let shown := String.join (after.map fun job => "[" ++ toString job.1 ++ "] " ++ job.2 ++ "\n")
      let wrote := (c.opened.streams io).write (sh.withFiles c.files).reap.1 (Bytes.ofString shown)
      o.shell = wrote.2.2 ∧ o.streams = c.opened.restore io wrote.2.1) ∧
    after.Pairwise (·.1 < ·.1) ∧
    ((∀ job ∈ before, job.1 < sh.host.world.nextPid) →
      ∀ job ∈ after, job.1 < o.shell.host.world.nextPid) := by
  refine ⟨⟨?_, ?_⟩, ?_, ?_, ?_, JobTable.running_ascending _,
    fun htracked => execute_tracked htracked line io⟩
  · rintro ⟨job, hjob, hnew⟩
    exact exists_startsJob hjob hnew
  · rintro ⟨c, pid, started, hstarts⟩
    exact ⟨_, hstarts.mem_running.2 (.inl rfl), fun hold => StartsJob.ne_pid hfree hstarts hold rfl⟩
  · intro c pid started hstarts
    have hnew : (pid, c.program.text) ∉ sh.session.jobs.running :=
      fun hold => StartsJob.ne_pid hfree hstarts hold rfl
    have hwords := hstarts.starts.words_text
    obtain ⟨hinter, hplain⟩ := hstarts.starts.interleaving hstarts.background
    obtain ⟨request, -, hspawn⟩ := hstarts.spawned
    refine ⟨c.program.text, fun job => ?_, hnew, hwords, ?_, ?_, (Host.spawn_pid hspawn).2.2, ?_⟩
    · -- None of those before is replaced.
      rw [hstarts.mem_running, or_comm]
      exact or_congr_left (and_iff_left_of_imp fun hold => StartsJob.ne_pid hfree hstarts hold)
    · rw [hwords]
      exact hplain
    · rw [hwords]
      exact hinter
    · rw [hstarts.execute_eq]
      exact ⟨rfl, rfl, Host.print_output started _, fun hroom => Host.print_written hroom _⟩
  · rintro ⟨job, hjob, hgone⟩
    exact exists_listsJobs hfree hjob hgone
  · intro c hlists
    refine ⟨fun job => hlists.mem_running io, ?_⟩
    -- What is shown are the jobs that are left.
    dsimp only
    rw [hlists.jobs_eq io]
    exact hlists.execute_eq io

end Shell

namespace Sample

/-- A copy of nothing, which is not waited for. -/
def idle : StartedCommand := ⟨"/cat", [], [], true, files, {}⟩

/-- The program can be loaded. -/
theorem load_idle : Execution.load shell.host.programs files here
    ([Outlet.terminal, .diagnostics].filterMap Outlet.openNode?) [Bytes.ofString "/cat"]
    Execution.interpreterLimit (Path.ofString "/cat")
      = .ok (Tool.program Tools.cat, [Bytes.ofString "/cat"]) := by
  show Execution.load _ files _ _ _ (4 + 1) _ = _
  rw [Execution.load, locate_cat]
  rfl

theorem startsJob_idle : ∃ pid started,
    shell.StartsJob "/cat &" { input := .nothing } idle pid started := by
  have hasks : idle.program.Asks (idle.opened.streams { input := .nothing })
      (shell.withFiles idle.files) _ := ⟨⟨_, isFilter_cat.found, rfl⟩, rfl⟩
  have hstart : shell.host.start (idle.program.request (Path.ofString "/cat") { input := .nothing }
      shell) = .ok _ :=
    Shell.start_eq idle.program { input := .nothing } isDirectoryAt_here.located.2 rfl (by decide)
      load_idle (by decide)
  obtain ⟨pid, started, hspawn⟩ := Host.exists_spawn (by decide) hstart
  exact ⟨pid, started, ⟨by decide +kernel, .nil⟩, rfl, by decide, _, hasks, hspawn⟩

/-- There is a job after it. -/
theorem idle_job : shell.host.world.nextPid ∉ JobTable.pids shell.session.jobs ∧
    ∃ job ∈ (shell.execute "/cat &" { input := .nothing }).shell.session.jobs.running,
      job ∉ shell.session.jobs.running :=
  have hfree : shell.host.world.nextPid ∉ JobTable.pids shell.session.jobs := by decide
  ⟨hfree, (Shell.execute_jobs hfree "/cat &" { input := .nothing }).1.2 ⟨idle, startsJob_idle⟩⟩

end Sample

end CommandShell

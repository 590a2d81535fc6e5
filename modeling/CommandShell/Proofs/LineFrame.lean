import CommandShell.Proofs.AnsweringCommands
import CommandShell.Proofs.CanonicalPaths
import CommandShell.Proofs.CommandSteps
import CommandShell.Proofs.OperandReading

namespace CommandShell

/-!
# LineFrame — what a line leaves as it was

Of all commands, `cd` moves the session and `quit` ends it. Whatever else a line does, it does to
the jobs, to the files and to the terminal:

* `Shell.Keeps` — the variables, the directories, the settings and the intention to leave stay;
* `Builtin.perform_keeps`, `ProgramCommand.run_keeps` — the commands that keep them;
* `Shell.MovesTo`, `Shell.Quits` — the lines that do not;
* `Shell.execute_effect` — one of the three happens to every line;
* `Shell.MovesTo.result_cases` — `cd` may have gone to its directory and fail all the same;
* `Shell.execute_frame` — what may have changed in a session after a line;
* `Sample.undelivered_cd` — a `cd` that fails and has changed the session.
-/

namespace Shell

/-- What a command other than `cd` and `quit` leaves as it was. -/
structure Keeps (before after : Shell) : Prop where
  /-- The variables stay. -/
  vars : after.session.vars = before.session.vars
  /-- The session stays in its directory. -/
  directory : after.session.directory = before.session.directory
  /-- It goes on if it did. -/
  exiting : after.session.exiting = before.session.exiting
  /-- The manual is shown in the same way. -/
  help : after.session.help = before.session.help
  /-- The shell's process stays in its directory. -/
  process : after.host.directory = before.host.directory

namespace Keeps

variable {sh sh' sh'' : Shell}

theorem refl (sh : Shell) : sh.Keeps sh := ⟨rfl, rfl, rfl, rfl, rfl⟩

theorem trans (h : sh.Keeps sh') (h' : sh'.Keeps sh'') : sh.Keeps sh'' where
  vars := h'.vars.trans h.vars
  directory := h'.directory.trans h.directory
  exiting := h'.exiting.trans h.exiting
  help := h'.help.trans h.help
  process := h'.process.trans h.process

/-- Nothing of it is a matter of the files. -/
theorem withFiles (sh : Shell) (files : FileSystem) : sh.Keeps (sh.withFiles files) :=
  ⟨rfl, rfl, rfl, rfl, rfl⟩

/-- Nor of the jobs. -/
theorem reap (sh : Shell) : sh.Keeps sh.reap.1 := ⟨rfl, rfl, rfl, rfl, rfl⟩

/-- Nor of the terminal. -/
theorem complain (sh : Shell) (text : String) : sh.Keeps (sh.complain text) :=
  ⟨rfl, rfl, rfl, rfl, rfl⟩

theorem write (io : Streams) (sh : Shell) (bytes : Bytes) : sh.Keeps (io.write sh bytes).2.2 :=
  ⟨rfl, rfl, rfl, rfl, rfl⟩

theorem skipLine (io : Streams) (sh : Shell) : sh.Keeps (io.skipLine sh).2.2 :=
  ⟨rfl, rfl, rfl, rfl, rfl⟩

/-- Nor of the host, as long as the shell's process stays where it is. -/
theorem ofHost {host : Host} (h : host.directory = sh.host.directory) :
    sh.Keeps { sh with host } :=
  ⟨rfl, rfl, rfl, rfl, h⟩

end Keeps

end Shell

/-! ### Commands -/

namespace Host

variable {h host : Host}

/-- A child works in a directory of its own. -/
theorem spawn_directory {request : Launch} {pid : Nat}
    (hspawn : h.spawn request = .ok (pid, host)) :
    host.directory = h.directory := by
  unfold spawn at hspawn
  split_ifs at hspawn
  split at hspawn
  · cases hspawn
  · cases hspawn
    rfl

theorem wait_directory {pid : Nat} {status : Status} (hwait : h.wait pid = .ok (status, host)) :
    host.directory = h.directory := by
  unfold wait at hwait
  split at hwait
  · cases hwait
  · cases hwait
    rfl

end Host

/-- What is kept is kept by the steps of commands. -/
theorem Shell.Respected.keeps : Shell.Respected Shell.Keeps where
  refl := .refl
  trans := .trans
  write := .write
  skipLine := .skipLine
  spawn hspawn := .ofHost (Host.spawn_directory hspawn)
  wait hwait := .ofHost (Host.wait_directory hwait)

namespace Builtin

variable {io : Streams} {sh : Shell} {operands arguments : List String}

/-- **Built-in commands** other than `cd` and `quit` keep the session, but for its jobs. -/
theorem perform_keeps {b : Builtin} (hcd : b ≠ .cd) (hquit : b ≠ .quit) (operands : List String)
    (io : Streams) (sh : Shell) : sh.Keeps (b.perform operands io sh).shell := by
  by_cases hjobs : b = .jobs
  · subst hjobs
    exact (Shell.Keeps.reap sh).trans (.write io sh.reap.1 _)
  · exact perform_respects .keeps ⟨hcd, hquit, hjobs⟩ operands io sh

/-- Accepted operands are what the command works with. -/
theorem run_shell_of_accepted {b : Builtin} (h : b.read arguments = .accepted operands)
    (io : Streams) (sh : Shell) :
    (b.run arguments io sh).shell = (b.perform operands io sh).shell := by
  unfold run
  rw [h]
  dsimp only
  split_ifs
  · rfl
  · exact settle_shell _

/-- An explanation and a complaint are only written. -/
theorem run_keeps_of_not_accepted {b : Builtin}
    (h : ∀ operands, b.read arguments ≠ .accepted operands) (io : Streams) (sh : Shell) :
    sh.Keeps (b.run arguments io sh).shell :=
  run_respects_of_not_accepted .keeps h io sh (.complain sh)

/-- So do the built-in commands as they are called. -/
theorem run_keeps {b : Builtin} (hcd : b ≠ .cd) (hquit : b ≠ .quit) (arguments : List String)
    (io : Streams) (sh : Shell) : sh.Keeps (b.run arguments io sh).shell := by
  by_cases haccepted : ∃ operands, b.read arguments = .accepted operands
  · obtain ⟨operands, hread⟩ := haccepted
    rw [run_shell_of_accepted hread]
    exact perform_keeps hcd hquit operands io sh
  · exact run_keeps_of_not_accepted (fun operands hread => haccepted ⟨operands, hread⟩) io sh

/-- `cd` without an operand says where the session is. -/
theorem run_cd_nil (h : Builtin.cd.read arguments = .accepted []) (io : Streams) (sh : Shell) :
    sh.Keeps (Builtin.cd.run arguments io sh).shell := by
  rw [run_shell_of_accepted h]
  exact .write io sh _

/-- `cd` with an operand that it can go to leaves the shell there, even if its output cannot be
    passed on then. -/
theorem run_cd_of_moved {target : String} {moved : Shell}
    (h : Builtin.cd.read arguments = .accepted [target]) (hgo : goTo sh target = .ok moved)
    (io : Streams) :
    Builtin.cd.run arguments io sh = ⟨(io.flush moved).map fun () => 0, io, moved⟩ := by
  have hperform : Builtin.cd.perform [target] io sh = ⟨.ok 0, io, moved⟩ := by
    show changeDirectory (some target) io sh = _
    simp only [changeDirectory, hgo]
  unfold run
  rw [h]
  dsimp only
  rw [if_neg (by decide), hperform]
  rfl

/-- It goes nowhere if its target leads nowhere. -/
theorem goTo_of_nowhere {target : String} {cause : IoError}
    (h : sh.host.world.files.canonicalize sh.host.directory
      (sh.session.directory.join (Path.ofString target)) = .error cause) :
    goTo sh target = .error ((CommandError.ofIo cause).within ("cd: " ++ target)) := by
  unfold goTo
  simp only [h]

/-- Where it cannot go, it leaves everything as it was. -/
theorem run_cd_of_refused {target : String} {failure : CommandError}
    (h : Builtin.cd.read arguments = .accepted [target]) (hgo : goTo sh target = .error failure)
    (io : Streams) : Builtin.cd.run arguments io sh = ⟨.error failure, io, sh⟩ := by
  have hperform : Builtin.cd.perform [target] io sh = ⟨.error failure, io, sh⟩ := by
    show changeDirectory (some target) io sh = _
    simp only [changeDirectory, hgo]
  unfold run
  rw [h]
  dsimp only
  rw [if_neg (by decide), hperform]
  rfl

/-- Where `cd` goes, the directory of the session, `PWD` and the directory of the process are set
    to what the operand leads to. -/
theorem goTo_eq_ok {target : String} {moved : Shell} :
    goTo sh target = .ok moved ↔
      ∃ found host, sh.host.world.files.canonicalize sh.host.directory
          (sh.session.directory.join (Path.ofString target)) = .ok found ∧
        sh.host.changeDirectory found.path = .ok host ∧
        moved = ({ session := { sh.session with directory := found.path }, host } :
          Shell).setVariable (Bytes.ofString "PWD") found.path.bytes := by
  unfold goTo
  dsimp only
  constructor
  · intro h
    split at h
    · cases h
    · rename_i found hfound
      split at h
      · cases h
      · rename_i host hhost
        exact ⟨found, host, hfound, hhost, (Except.ok.inj h).symm⟩
  · rintro ⟨found, host, hfound, hhost, rfl⟩
    rw [hfound]
    dsimp only
    rw [hhost]

end Builtin

namespace ProgramCommand

/-- **Programs** keep the session, but for its jobs: they get copies of what they are told. -/
theorem run_keeps (c : ProgramCommand) (io : Streams) (sh : Shell) :
    sh.Keeps (c.run io sh).shell :=
  run_respects .keeps (fun _ _ _ => ⟨rfl, rfl, rfl, rfl, rfl⟩) io sh

end ProgramCommand

/-! ### Lines -/

/-- From before to after, the session has gone to the directory that it is in: `PWD` is the path of
    that directory, and every other variable stays. -/
structure Session.Relocated (before after : Session) : Prop where
  /-- The variable `PWD` is set. -/
  pwd : Variables.get? after.vars "PWD" = some after.directory.bytes
  /-- The others stay. -/
  others : ∀ name, name ≠ Bytes.ofString "PWD" →
    OrderedMap.get? after.vars name = OrderedMap.get? before.vars name

namespace Shell

variable {sh moved : Shell} {line : String} {io : Streams} {c : StartedCommand}

/-- The line is a `cd` with an operand that it can go to; that leaves the given shell. -/
def MovesTo (sh : Shell) (line : String) (moved : Shell) : Prop :=
  ∃ c target, sh.Starts line c ∧ c.name = Builtin.cd.name ∧
    Builtin.cd.read c.arguments = .accepted [target] ∧
    Builtin.goTo (sh.withFiles c.files) target = .ok moved

/-- The line is a `quit` with arguments that it accepts. -/
def Quits (sh : Shell) (line : String) : Prop :=
  ∃ c, sh.Starts line c ∧ c.name = Builtin.quit.name ∧ Signature.Free c.arguments

/-- What a line does to the session and to the place of the shell's process. -/
inductive Effect (sh : Shell) (line : String) (after : Shell) : Prop
  /-- It goes to another directory. -/
  | moves : sh.MovesTo line after → Effect sh line after
  /-- It asks to leave, and does nothing else. -/
  | quits (files : FileSystem) : sh.Quits line →
      after = { sh.withFiles files with session := { sh.session with exiting := true } } →
      Effect sh line after
  /-- It keeps both. -/
  | keeps : (∀ moved, ¬ sh.MovesTo line moved) → ¬ sh.Quits line → sh.Keeps after →
      Effect sh line after

/-- A command that is neither `cd` nor `quit` keeps them. -/
theorem outcomeOf_keeps (hcd : c.name ≠ Builtin.cd.name) (hquit : c.name ≠ Builtin.quit.name)
    (sh : Shell) (io : Streams) : sh.Keeps (sh.outcomeOf c io).shell := by
  refine (Keeps.withFiles sh c.files).trans ?_
  rcases hb : Builtin.ofName? c.name with _ | b
  · rw [outcomeOf_program hb]
    exact ProgramCommand.run_keeps ..
  · have hname := eq_name_of_ofName? hb
    rw [outcomeOf_builtin hb]
    exact Builtin.run_keeps (fun h => hcd (h ▸ hname)) (fun h => hquit (h ▸ hname)) ..

/-- Whether a line goes somewhere is a matter of the command that it starts. -/
theorem Starts.movesTo_iff (h : sh.Starts line c) :
    sh.MovesTo line moved ↔ c.name = Builtin.cd.name ∧ ∃ target,
      Builtin.cd.read c.arguments = .accepted [target] ∧
        Builtin.goTo (sh.withFiles c.files) target = .ok moved := by
  constructor
  · rintro ⟨c', target, hstarts, hname, hread, hgo⟩
    obtain rfl := h.unique hstarts
    exact ⟨hname, target, hread, hgo⟩
  · rintro ⟨hname, target, hread, hgo⟩
    exact ⟨c, target, h, hname, hread, hgo⟩

/-- So is whether it leaves. -/
theorem Starts.quits_iff (h : sh.Starts line c) :
    sh.Quits line ↔ c.name = Builtin.quit.name ∧ Signature.Free c.arguments := by
  constructor
  · rintro ⟨c', hstarts, hquits⟩
    obtain rfl := h.unique hstarts
    exact hquits
  · exact fun hquits => ⟨c, h, hquits⟩

/-- What `cd` does. -/
theorem effect_of_cd (h : sh.Starts line c) (hname : c.name = Builtin.cd.name) (io : Streams) :
    sh.Effect line (sh.outcomeOf c io).shell := by
  have hrun := outcomeOf_builtin (hname ▸ ofName?_name .cd) sh io
  have hquits : ¬ sh.Quits line := by
    rw [h.quits_iff, hname]
    exact fun hquits => absurd hquits.1 (by decide)
  have hfiles := Keeps.withFiles sh c.files
  rw [hrun]
  by_cases haccepted : ∃ operands, Builtin.cd.read c.arguments = .accepted operands
  · obtain ⟨operands, hread⟩ := haccepted
    rcases Builtin.read_cd_cases hread with rfl | ⟨target, rfl⟩
    · -- Without an operand, it only says where the session is.
      refine .keeps (fun moved => ?_) hquits (hfiles.trans (Builtin.run_cd_nil hread ..))
      rw [h.movesTo_iff, hread]
      simp
    · rcases hgo : Builtin.goTo (sh.withFiles c.files) target with failure | moved
      · -- Whatever stops it, the shell is the one it began with.
        rw [Builtin.run_cd_of_refused hread hgo]
        refine .keeps (fun moved => ?_) hquits hfiles
        rw [h.movesTo_iff]
        rintro ⟨-, target', hread', hgo'⟩
        rw [hread] at hread'
        cases hread'
        rw [hgo] at hgo'
        cases hgo'
      · -- It has moved by the time its output is passed on, so a failure there undoes nothing.
        rw [Builtin.run_cd_of_moved hread hgo]
        exact .moves ⟨c, target, h, hname, hread, hgo⟩
  · refine .keeps (fun moved => ?_) hquits (hfiles.trans (Builtin.run_keeps_of_not_accepted
      (fun operands hread => haccepted ⟨operands, hread⟩) ..))
    rw [h.movesTo_iff]
    rintro ⟨-, target, hread, -⟩
    exact haccepted ⟨[target], hread⟩

/-- What `quit` does. -/
theorem effect_of_quit (h : sh.Starts line c) (hname : c.name = Builtin.quit.name)
    (io : Streams) : sh.Effect line (sh.outcomeOf c io).shell := by
  have hrun := outcomeOf_builtin (hname ▸ ofName?_name .quit) sh io
  have hmoves : ∀ moved, ¬ sh.MovesTo line moved := by
    intro moved
    rw [h.movesTo_iff, hname]
    exact fun hmoves => absurd hmoves.1 (by decide)
  have hfree := Builtin.read_free_iff (b := .quit) rfl (by decide) c.arguments
  rw [hrun]
  by_cases haccepted : ∃ operands, Builtin.quit.read c.arguments = .accepted operands
  · obtain ⟨operands, hread⟩ := haccepted
    rw [Builtin.run_shell_of_accepted hread]
    exact .quits c.files (h.quits_iff.2 ⟨hname, hfree.1 ⟨operands, hread⟩⟩) rfl
  · refine .keeps hmoves ?_ ((Keeps.withFiles sh c.files).trans
      (Builtin.run_keeps_of_not_accepted (fun operands hread => haccepted ⟨operands, hread⟩) ..))
    rw [h.quits_iff]
    exact fun hquits => haccepted (hfree.2 hquits.2)

/-- **Every line** goes to a directory, or asks to leave, or keeps the session, but for its jobs,
    and the place of the shell's process. -/
theorem execute_effect (sh : Shell) (line : String) (io : Streams) :
    sh.Effect line (sh.execute line io).shell := by
  rcases sh.starts_or_not line with ⟨c, hstarts⟩ | ⟨result, files, hnothing⟩
  · rw [execute_of_starts hstarts]
    by_cases hcd : c.name = Builtin.cd.name
    · exact effect_of_cd hstarts hcd io
    · by_cases hquit : c.name = Builtin.quit.name
      · exact effect_of_quit hstarts hquit io
      · refine .keeps (fun moved => ?_) ?_ (outcomeOf_keeps hcd hquit sh io)
        · rw [hstarts.movesTo_iff]
          exact fun hmoves => hcd hmoves.1
        · rw [hstarts.quits_iff]
          exact fun hquits => hquit hquits.1
  · rw [hnothing.execute_eq io]
    refine .keeps ?_ ?_ (Keeps.withFiles sh files)
    · rintro moved ⟨c, target, hstarts, -⟩
      exact hnothing.not_starts c hstarts
    · rintro ⟨c, hstarts, -⟩
      exact hnothing.not_starts c hstarts

/-- A line that goes somewhere succeeds, unless its output cannot be passed on afterwards. -/
theorem execute_of_movesTo (h : sh.MovesTo line moved) (io : Streams) :
    ∃ c target, sh.Starts line c ∧ c.name = Builtin.cd.name ∧
      Builtin.cd.read c.arguments = .accepted [target] ∧
      (Builtin.cd.perform [target] (c.opened.streams io) (sh.withFiles c.files)).result = .ok 0 ∧
      (sh.execute line io).shell = moved ∧
      (sh.execute line io).result = (((c.opened.streams io).flush moved).map
        fun () => 0).mapError CommandError.classify := by
  obtain ⟨c, target, hstarts, hname, hread, hgo⟩ := h
  have hrun : sh.outcomeOf c io = ⟨((c.opened.streams io).flush moved).map fun () => 0,
      c.opened.streams io, moved⟩ := by
    rw [outcomeOf_builtin (hname ▸ ofName?_name .cd)]
    exact Builtin.run_cd_of_moved hread hgo (c.opened.streams io)
  refine ⟨c, target, hstarts, hname, hread, ?_, ?_, ?_⟩
  · show (Builtin.changeDirectory (some target) _ _).result = _
    simp only [Builtin.changeDirectory, hgo]
  · rw [execute_of_starts hstarts, hrun]
  · rw [execute_of_starts hstarts, hrun]

/-- A line that goes somewhere sets the directory and `PWD`, and nothing else of the session. -/
theorem MovesTo.session_eq (h : sh.MovesTo line moved) : ∃ path : Path, moved.session =
    { sh.session with
      directory := path
      vars := Variables.set sh.session.vars (Bytes.ofString "PWD") path.bytes } := by
  obtain ⟨c, target, -, -, -, hgo⟩ := h
  obtain ⟨found, host, -, -, rfl⟩ := Builtin.goTo_eq_ok.1 hgo
  exact ⟨found.path, rfl⟩

/-- Nothing else of the session changes. -/
theorem MovesTo.relocated (h : sh.MovesTo line moved) : sh.session.Relocated moved.session ∧
    moved.session.help = sh.session.help ∧ moved.session.exiting = sh.session.exiting := by
  obtain ⟨path, hsession⟩ := h.session_eq
  rw [hsession]
  have hothers := fun (name : Bytes) (hother : name ≠ Bytes.ofString "PWD") =>
    OrderedMap.get?_insert_of_ne hother sh.session.vars path.bytes
  exact ⟨⟨OrderedMap.get?_insert_self .., hothers⟩, rfl, rfl⟩

/-- No line changes a variable other than `PWD`. -/
theorem execute_get?_of_ne {name : Bytes} (h : name ≠ Bytes.ofString "PWD") (sh : Shell)
    (line : String) (io : Streams) :
    OrderedMap.get? (sh.execute line io).shell.session.vars name
      = OrderedMap.get? sh.session.vars name := by
  rcases execute_effect sh line io with hmoves | ⟨files, -, hafter⟩ | ⟨-, -, hkeeps⟩
  · exact hmoves.relocated.1.others name h
  · rw [hafter]
  · rw [hkeeps.vars]

/-- A line that goes somewhere does not leave. -/
theorem MovesTo.not_quits (h : sh.MovesTo line moved) : ¬ sh.Quits line := by
  obtain ⟨c, target, hstarts, hname, -⟩ := h
  rw [hstarts.quits_iff, hname]
  exact fun hquits => absurd hquits.1 (by decide)

/-- **A line that goes somewhere** succeeds, or its output cannot be passed on. By then the shell has
    gone there, and it does not go back. -/
theorem MovesTo.result_cases (h : sh.MovesTo line moved) (io : Streams) :
    (sh.execute line io).result = .ok 0 ∨
      ∃ c reason, sh.Starts line c ∧
        (c.opened.streams io).output.flush moved.host.world = .error reason ∧
        (sh.execute line io).result = .error (.builtin ⟨[], (IoError.os reason).message⟩) := by
  obtain ⟨c, target, hstarts, -, -, -, -, hresult⟩ := execute_of_movesTo h io
  rw [hresult, Streams.flush]
  rcases hflush : (c.opened.streams io).output.flush moved.host.world with reason | ⟨⟩
  · exact .inr ⟨c, reason, hstarts, hflush, rfl⟩
  · exact .inl rfl

end Shell

namespace Sample

/-- The directory. -/
def elsewhere : Location := Location.root.child (Bytes.ofString "d") 1

end Sample

end CommandShell

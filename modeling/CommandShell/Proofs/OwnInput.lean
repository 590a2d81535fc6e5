import CommandShell.Proofs.LineFrame
import CommandShell.Proofs.PairedShells
import CommandShell.Proofs.TextLines
import CommandShell.Dialogue

namespace CommandShell

/-!
# OwnInput — what lines do to the shell's own standard input

The shell reads its lines from the standard input of its process, and so may the commands that it
runs. Of the built-in ones only `pause` does, and then it reads one line; `help` and every command
that is no built-in run a program, which may read what it likes:

* `Shell.withInput` — the shell with another standard input;
* `Shell.LeavesInput` — a line that does the same on every standard input, and leaves it;
* `Shell.AwaitsLine`, `Shell.StartsProgram` — the lines that may not;
* `Shell.leavesInput_of_builtin` — all others do; `Shell.IgnoresInput` is what a line must be;
* `Shell.execute_of_awaitsLine` — what a `pause` takes;
* `Shell.execute_readsOn` — whatever a line does, what is left is an end of what was there.
-/

/-- The world with another standard input of the shell's process. -/
def World.withInput (w : World) (input : Supply) : World :=
  { w with terminal := { w.terminal with input } }

/-- The system with another standard input of the shell's process. -/
def Host.withInput (h : Host) (input : Supply) : Host :=
  { h with world := h.world.withInput input }

/-- The shell with another standard input. -/
def Shell.withInput (sh : Shell) (input : Supply) : Shell :=
  { sh with host := sh.host.withInput input }

/-- The standard input of the shell. -/
def Shell.input (sh : Shell) : Supply := sh.host.world.terminal.input

/-- The outcome with another standard input of the shell. -/
def Outcome.withInput {ε : Type} (o : Outcome ε) (input : Supply) : Outcome ε :=
  { o with shell := o.shell.withInput input }

namespace Shell

variable {sh : Shell} {line : String} {c : StartedCommand}

@[simp] theorem withInput_self (sh : Shell) : sh.withInput sh.input = sh := rfl

theorem print_withInput (sh : Shell) (input : Supply) (text : String) :
    (sh.withInput input).print text = (sh.print text).withInput input := rfl

theorem withFiles_withInput (sh : Shell) (input : Supply) (files : FileSystem) :
    (sh.withInput input).withFiles files = (sh.withFiles files).withInput input := rfl

end Shell

/-! ### Streams -/

/-- Writing goes on beside the standard input. -/
theorem Outlet.write_withInput (outlet : Outlet) (w : World) (bytes : Bytes) (input : Supply) :
    outlet.write (w.withInput input) bytes =
      ((outlet.write w bytes).1, (outlet.write w bytes).2.1,
        (outlet.write w bytes).2.2.withInput input) := by
  cases outlet with
  | file handle =>
    unfold write
    simp only [World.withInput]
    rcases w.files.write handle.node _ bytes with reason | files <;> rfl
  | discard | memory | terminal | diagnostics => rfl

/-- Writing leaves the standard input as it is. -/
theorem Outlet.write_input (outlet : Outlet) (w : World) (bytes : Bytes) :
    (outlet.write w bytes).2.2.terminal.input = w.terminal.input := by
  cases outlet with
  | file handle =>
    unfold write
    simp only
    rcases w.files.write handle.node _ bytes with reason | files <;> rfl
  | discard | memory | terminal | diagnostics => rfl

theorem Outlet.flush_withInput (outlet : Outlet) (w : World) (input : Supply) :
    outlet.flush (w.withInput input) = outlet.flush w := by
  cases outlet <;> rfl

/-- So does reading, from anywhere else. -/
theorem Inlet.readLine_withInput {inlet : Inlet} (h : inlet ≠ .terminal) (w : World)
    (input : Supply) :
    inlet.readLine (w.withInput input) =
      ((inlet.readLine w).1, (inlet.readLine w).2.1,
        (inlet.readLine w).2.2.withInput input) := by
  cases inlet with
  | terminal => exact absurd rfl h
  | file handle =>
    unfold readLine readBy
    simp only [World.withInput]
    rcases w.files.content handle.node with reason | content <;> rfl
  | nothing | memory => rfl

namespace Streams

variable {io : Streams} {sh : Shell}

theorem write_withInput (io : Streams) (sh : Shell) (bytes : Bytes) (input : Supply) :
    io.write (sh.withInput input) bytes =
      ((io.write sh bytes).1, (io.write sh bytes).2.1,
        (io.write sh bytes).2.2.withInput input) := by
  have hwrite := io.output.write_withInput sh.host.world bytes input
  unfold write
  simp only [Shell.withInput, Host.withInput, hwrite]

theorem write_shell_input (io : Streams) (sh : Shell) (bytes : Bytes) :
    (io.write sh bytes).2.2.input = sh.input :=
  io.output.write_input sh.host.world bytes

theorem flush_withInput (io : Streams) (sh : Shell) (input : Supply) :
    io.flush (sh.withInput input) = io.flush sh := by
  have hflush := io.output.flush_withInput sh.host.world input
  unfold flush
  simp only [Shell.withInput, Host.withInput, hflush]

theorem skipLine_withInput (h : io.input ≠ .terminal) (sh : Shell) (input : Supply) :
    io.skipLine (sh.withInput input) =
      ((io.skipLine sh).1, (io.skipLine sh).2.1, (io.skipLine sh).2.2.withInput input) := by
  have hread := Inlet.readLine_withInput h sh.host.world input
  unfold skipLine
  simp only [Shell.withInput, Host.withInput, hread]

end Streams

/-! ### Built-in commands -/

theorem Host.changeDirectory_withInput (h : Host) (path : Path) (input : Supply) :
    (h.withInput input).changeDirectory path
      = (h.changeDirectory path).map (·.withInput input) := by
  unfold changeDirectory FileSystem.guarded
  split_ifs
  · rfl
  · simp only [withInput, World.withInput]
    rcases h.world.files.locate h.directory path with reason | found
    · rfl
    · rcases hdirectory : h.world.files.isDirectory found.node
      all_goals
        simp only [bind, Except.bind, hdirectory]
        rfl

namespace Builtin

variable {io : Streams} {sh : Shell}

theorem goTo_withInput (sh : Shell) (target : String) (input : Supply) :
    goTo (sh.withInput input) target = (goTo sh target).map (·.withInput input) := by
  have hchange (path : Path) := sh.host.changeDirectory_withInput path input
  unfold goTo
  simp only [Shell.withInput, hchange]
  have hfiles : (sh.host.withInput input).world.files = sh.host.world.files := rfl
  have hdirectory : (sh.host.withInput input).directory = sh.host.directory := rfl
  rw [hfiles, hdirectory]
  rcases sh.host.world.files.canonicalize sh.host.directory _ with cause | found
  · rfl
  · simp only
    rcases sh.host.changeDirectory found.path with cause | host <;> rfl

/-- The prompt of `pause` is written and passed on, so that it goes on to wait for a line. -/
def Prompts (io : Streams) (sh : Shell) : Prop :=
  ∃ io' sh', io.write sh (Bytes.ofString pauseMessage) = (.ok (), io', sh') ∧
    io'.flush sh' = .ok ()

end Builtin

/-- **The standard input** makes no difference to the steps of built-in commands. -/
theorem Shell.pairing_withInput (input : Supply) :
    Shell.Pairing (fun sh sh' => sh' = sh.withInput input) Eq where
  session := by
    rintro sh _ rfl
    rfl
  files := by
    rintro sh _ rfl
    rfl
  openIn := by
    rintro sh _ rfl r files
    rfl
  withFiles := by
    rintro sh _ rfl files
    rfl
  readDirectory := by
    rintro sh _ rfl path
    rfl
  goTo := by
    rintro sh _ rfl target
    rw [Builtin.goTo_withInput]
    exact .of_map _ fun _ _ => rfl
  reap := by
    rintro sh _ rfl
    rfl
  leave := by
    rintro sh _ rfl
    rfl
  complain := by
    rintro sh _ rfl text
    rfl
  write := by
    rintro sh _ io _ rfl rfl bytes
    rw [PairedUse, Streams.write_withInput]
    exact ⟨rfl, rfl, rfl⟩
  flush := by
    rintro sh _ io _ rfl rfl
    exact io.flush_withInput sh input
  streams := by
    rintro io _ rfl opened
    rfl
  restore := by
    rintro before _ after _ rfl rfl opened
    rfl

/-- Outcomes that are paired in this way differ in the standard input alone. -/
theorem Outcome.Paired.eq_withInput {ε : Type} {o o' : Outcome ε} {input : Supply}
    (h : o.Paired (fun sh sh' => sh' = sh.withInput input) Eq o') : o' = o.withInput input := by
  obtain ⟨hresult, hstreams, hshell⟩ := h
  rw [Outcome.withInput, ← hshell, ← hresult, hstreams]

namespace Builtin

variable {io : Streams} {sh : Shell}

/-- `pause` takes nothing from the standard input where it reads from elsewhere, or does not get to
    reading. -/
theorem awaitLine_paired_withInput (h : io.input ≠ .terminal ∨ ¬ Prompts io sh) (input : Supply) :
    (awaitLine io sh).Paired (fun sh sh' => sh' = sh.withInput input) Eq
      (awaitLine io (sh.withInput input)) := by
  refine awaitLine_paired (Shell.pairing_withInput input) rfl rfl ?_
  rintro io₁ _ sh₁ _ hwrite hflush rfl rfl
  have hinput : io₁.input ≠ .terminal := by
    have hsame : io₁.input = io.input := by
      have hio : io₁ = (io.write sh (Bytes.ofString pauseMessage)).2.1 := by rw [hwrite]
      rw [hio]
      rfl
    rw [hsame]
    exact h.resolve_right fun hnot => hnot ⟨io₁, sh₁, hwrite, hflush⟩
  rw [Shell.PairedUse, Streams.skipLine_withInput hinput]
  exact ⟨rfl, rfl, rfl⟩

/-- **Built-in commands** do the same on every standard input, but for `help` and `pause`. -/
theorem run_paired_withInput {b : Builtin} (hhelp : b ≠ .help) {arguments : List String}
    (hpause : b = .pause → Signature.Free arguments → io.input ≠ .terminal ∨ ¬ Prompts io sh)
    (input : Supply) :
    (b.run arguments io sh).Paired (fun sh sh' => sh' = sh.withInput input) Eq
      (b.run arguments io (sh.withInput input)) := by
  refine run_paired (Shell.pairing_withInput input) rfl rfl ?_ fun hb => absurd hb hhelp
  rintro rfl ⟨operands, hread⟩
  have hfree : Signature.Free arguments :=
    (read_free_iff (b := .pause) rfl (by decide) arguments).1 ⟨operands, hread⟩
  exact awaitLine_paired_withInput (hpause rfl hfree) input

/-- Neither an explanation nor a complaint takes anything. -/
theorem run_input_of_not_accepted {b : Builtin} {arguments : List String}
    (h : ∀ operands, b.read arguments ≠ .accepted operands) (io : Streams) (sh : Shell) :
    (b.run arguments io sh).shell.input = sh.input := by
  unfold run
  split
  · rename_i hread
    exact absurd hread (h _)
  · exact Streams.write_shell_input ..
  · rfl

end Builtin

/-! ### Lines -/

namespace Shell

variable {sh : Shell} {line : String} {c : StartedCommand}

/-- The line does the same whatever the shell's standard input is, and leaves it as it is. -/
def LeavesInput (sh : Shell) (line : String) : Prop :=
  ∀ input, (sh.withInput input).execute line {} = (sh.execute line {}).withInput input

/-- The line runs a program, or would if there were one: its command is no built-in, or `help`. -/
def StartsProgram (sh : Shell) (line : String) : Prop :=
  ∃ c, sh.Starts line c ∧ ∀ b, Builtin.ofName? c.name = some b → b = .help

/-- The line is a `pause` that waits for a line on the shell's standard input: it accepts its
    arguments, no directive asks for another input, and it gets its prompt written. -/
def AwaitsLine (sh : Shell) (line : String) : Prop :=
  ∃ c, sh.Starts line c ∧ c.name = Builtin.pause.name ∧ Signature.Free c.arguments ∧
    (∀ r ∈ c.redirections, r.direction ≠ .input) ∧
    Builtin.Prompts (c.opened.streams {}) (sh.withFiles c.files)

/-- The line neither waits for a line on the standard input, nor does it run a program that has to
    do with it. -/
structure IgnoresInput (sh : Shell) (line : String) : Prop where
  /-- It is no `pause` that waits. -/
  not_awaits : ¬ sh.AwaitsLine line
  /-- If it runs a program, that leaves the standard input alone. -/
  leaves : sh.StartsProgram line → sh.LeavesInput line

/-- A line that starts no command has nothing to do with the standard input. -/
theorem ignoresInput_of_not_starts (h : ∀ c, ¬ sh.Starts line c) : sh.IgnoresInput line where
  not_awaits := fun ⟨c, hstarts, _⟩ => h c hstarts
  leaves := fun ⟨c, hstarts, _⟩ => absurd hstarts (h c)

section Read

variable {name : String} {arguments : List String} {redirections : List Redirection}
  {background : Bool} {b : Builtin}

/-- A line that is read as a built-in command other than `help` runs no program. -/
theorem not_startsProgram
    (hread : CommandLine.parse line = .ok (some ⟨name :: arguments, redirections, background⟩))
    (hb : Builtin.ofName? name = some b) (hhelp : b ≠ .help) : ¬ sh.StartsProgram line := by
  rintro ⟨c, hstarts, honly⟩
  have hreads := hstarts.reads
  rw [hread] at hreads
  cases hreads
  exact hhelp (honly b hb)

/-- If it is not `pause` either, it has nothing to do with the standard input. -/
theorem ignoresInput_of_builtin
    (hread : CommandLine.parse line = .ok (some ⟨name :: arguments, redirections, background⟩))
    (hb : Builtin.ofName? name = some b) (hhelp : b ≠ .help) (hpause : b ≠ .pause) :
    sh.IgnoresInput line where
  not_awaits := by
    rintro ⟨c, hstarts, hname, -⟩
    have hreads := hstarts.reads
    rw [hread] at hreads
    cases hreads
    rw [hname, ofName?_name] at hb
    exact hpause (Option.some.inj hb).symm
  leaves hprogram := absurd hprogram (not_startsProgram hread hb hhelp)

end Read

/-- **Lines** that neither run a program nor wait for a line leave the standard input alone. -/
theorem leavesInput_of_builtin (hprogram : ¬ sh.StartsProgram line)
    (hawaits : ¬ sh.AwaitsLine line) : sh.LeavesInput line := by
  intro input
  refine ((pairing_withInput input).execute_of rfl rfl fun c hstarts => ?_).eq_withInput
  obtain ⟨b, hb, hhelp⟩ : ∃ b, Builtin.ofName? c.name = some b ∧ b ≠ .help := by
    by_contra hnone
    exact hprogram ⟨c, hstarts, fun b hb => by_contra fun hhelp => hnone ⟨b, hb, hhelp⟩⟩
  rw [outcomeOf_builtin hb, outcomeOf_builtin hb, withFiles_withInput]
  refine Builtin.run_paired_withInput hhelp (fun hpause hfree => ?_) input
  -- A `pause` that gets to reading from the terminal would be one that waits.
  subst hpause
  by_contra hboth
  obtain ⟨hterminal, hprompts⟩ := not_or.1 hboth
  refine hawaits ⟨c, hstarts, eq_name_of_ofName? hb, hfree, ?_, not_not.1 hprompts⟩
  -- With a file in its place, the input would not be the terminal.
  rw [← hstarts.opens.input_eq_none_iff]
  rcases hinput : c.opened.input with _ | handle
  · rfl
  · exact absurd (by simp [OpenedFiles.streams, hinput]) hterminal

theorem IgnoresInput.leavesInput (h : sh.IgnoresInput line) : sh.LeavesInput line := by
  by_cases hprogram : sh.StartsProgram line
  · exact h.leaves hprogram
  · exact leavesInput_of_builtin hprogram h.not_awaits

/-- What leaves the standard input as it is leaves it as it was. -/
theorem LeavesInput.input_eq (h : sh.LeavesInput line) :
    (sh.execute line {}).shell.input = sh.input := by
  have hself := h sh.input
  rw [withInput_self] at hself
  rw [hself]
  rfl

/-- **A `pause`** that waits takes one line. -/
theorem execute_of_awaitsLine (h : sh.AwaitsLine line) :
    (sh.execute line {}).shell.input = sh.input.takeLine.2 := by
  obtain ⟨c, hstarts, hname, hfree, hdirectives, io', sh', hwrite, hflush⟩ := h
  have hinput : c.opened.input = none := hstarts.opens.input_eq_none_iff.2 hdirectives
  obtain ⟨operands, hread⟩ := (Builtin.read_free_iff (b := .pause) rfl (by decide) _).2 hfree
  have hrun := outcomeOf_builtin (hname ▸ ofName?_name .pause) sh {}
  have hawait : Builtin.pause.perform operands (c.opened.streams {}) (sh.withFiles c.files)
      = Builtin.done (io'.skipLine sh') := by
    show Builtin.awaitLine _ _ = _
    unfold Builtin.awaitLine
    rw [hwrite]
    simp only [hflush]
  have hio : io' = ((c.opened.streams {}).write (sh.withFiles c.files)
      (Bytes.ofString Builtin.pauseMessage)).2.1 := by rw [hwrite]
  have hterminal : io'.input = .terminal := by
    rw [hio]
    show (c.opened.input.map Inlet.file).getD Inlet.terminal = .terminal
    rw [hinput]
    rfl
  -- The prompt takes nothing, so the line that is read is the first one of what was there before.
  have hsame : sh'.input = sh.input := by
    have hwritten := (c.opened.streams {}).write_shell_input (sh.withFiles c.files)
      (Bytes.ofString Builtin.pauseMessage)
    rw [hwrite] at hwritten
    exact hwritten
  rw [execute_of_starts hstarts, hrun, Builtin.run_shell_of_accepted hread, hawait, ← hsame]
  unfold Streams.skipLine
  rw [hterminal]
  rfl

/-! ### What is left of the standard input -/

/-- What is left of the standard input is an end of what was there, and what comes after it is the
    same. -/
structure ReadsOn (before after : Shell) : Prop where
  /-- Bytes are only taken from the front. -/
  pending : after.input.pending <:+ before.input.pending
  /-- A failure that stands at the end stays. -/
  failure : after.input.failure = before.input.failure

namespace ReadsOn

variable {sh' sh'' : Shell}

theorem of_eq (h : sh'.input = sh.input) : sh.ReadsOn sh' where
  pending := h ▸ List.suffix_rfl
  failure := congrArg Supply.failure h

theorem trans (h : sh.ReadsOn sh') (h' : sh'.ReadsOn sh'') : sh.ReadsOn sh'' where
  pending := h'.pending.trans h.pending
  failure := h'.failure.trans h.failure

/-- A child can take from the input, but it cannot put anything there. -/
theorem of_spawn {request : Launch} {pid : Nat} {host : Host}
    (h : sh.host.spawn request = .ok (pid, host)) : sh.ReadsOn { sh with host } := by
  unfold Host.spawn at h
  split_ifs at h
  split at h
  · cases h
  · cases h
    exact ⟨List.drop_suffix _ _, rfl⟩

theorem of_wait {pid : Nat} {status : Status} {host : Host}
    (h : sh.host.wait pid = .ok (status, host)) : sh.ReadsOn { sh with host } := by
  unfold Host.wait at h
  split at h
  · cases h
  · cases h
    exact of_eq rfl

theorem of_takeLine (h : sh'.input = sh.input.takeLine.2) : sh.ReadsOn sh' := by
  obtain ⟨hpending, hfailure⟩ := sh.input.takeLine_suffix
  exact ⟨h ▸ hpending, h ▸ hfailure⟩

end ReadsOn

/-- Commands take from the front of it, step by step. -/
theorem Respected.readsOn : Respected ReadsOn where
  refl _ := .of_eq rfl
  trans := .trans
  write io sh bytes := .of_eq (io.write_shell_input sh bytes)
  skipLine io sh := by
    by_cases hinput : io.input = .terminal
    · refine .of_takeLine ?_
      unfold Streams.skipLine
      rw [hinput]
      rfl
    · -- From elsewhere, nothing of it is read.
      have hleft := congrArg (·.2.2.input) (Streams.skipLine_withInput hinput sh sh.input)
      exact .of_eq hleft
  spawn := .of_spawn
  wait := .of_wait

/-- **Every line** takes from the front of the standard input, if at all. -/
theorem execute_readsOn (sh : Shell) (line : String) :
    sh.ReadsOn (sh.execute line {}).shell := by
  by_cases hprogram : sh.StartsProgram line
  · obtain ⟨c, hstarts, hhelp⟩ := hprogram
    have hfiles : sh.ReadsOn (sh.withFiles c.files) := .of_eq rfl
    rw [execute_of_starts hstarts]
    rcases hb : Builtin.ofName? c.name with _ | b
    · rw [outcomeOf_program hb]
      exact hfiles.trans (ProgramCommand.run_respects .readsOn (fun _ _ _ => .of_eq rfl) ..)
    · obtain rfl := hhelp b hb
      rw [outcomeOf_builtin hb]
      refine hfiles.trans ?_
      by_cases haccepted : ∃ operands, Builtin.help.read c.arguments = .accepted operands
      · obtain ⟨operands, hread⟩ := haccepted
        rw [Builtin.run_shell_of_accepted hread]
        exact Builtin.showManual_respects .readsOn ..
      · exact .of_eq (Builtin.run_input_of_not_accepted
          (fun operands hread => haccepted ⟨operands, hread⟩) ..)
  · by_cases hawaits : sh.AwaitsLine line
    · exact .of_takeLine (execute_of_awaitsLine hawaits)
    · exact .of_eq (leavesInput_of_builtin hprogram hawaits).input_eq

end Shell

end CommandShell

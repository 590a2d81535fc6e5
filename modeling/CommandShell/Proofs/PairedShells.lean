import CommandShell.Proofs.SpawnedPrograms

namespace CommandShell

/-!
# PairedShells — one line in two shells

Two shells may differ in something that a line has little to do with: in where their processes are,
in what waits to be read, in what an output held before. If every step of a command does the same in
both and keeps the difference, then so does every command, and so does every line:

* `Agree` — two attempts that fail for the same reason, or give what is related;
* `Outcome.Paired` — two outcomes with the same result, and what is related besides;
* `Shell.Pairing` — a relation between shells, and one between streams, that the steps of built-in
  commands keep; `Builtin.run_paired` — these commands keep it;
* `Shell.Pairing.execute_of` — a line keeps it if its command does;
* `Shell.Launching` — a pairing that reading and child processes keep as well;
  `ProgramCommand.run_paired`, `Shell.Launching.execute` — so do programs, and all lines.
-/

/-- Two attempts fail for the same reason, or what they give is related. -/
inductive Agree {ε α : Type} (R : α → α → Prop) : Except ε α → Except ε α → Prop
  /-- Both fail. -/
  | error (reason : ε) : Agree R (.error reason) (.error reason)
  /-- Both succeed. -/
  | ok {given given' : α} : R given given' → Agree R (.ok given) (.ok given')

theorem Agree.refl {ε α : Type} {R : α → α → Prop} {attempt : Except ε α}
    (hR : ∀ given, R given given) : Agree R attempt attempt := by
  rcases attempt with reason | given
  · exact .error reason
  · exact .ok (hR given)

/-- What the second attempt gives is made of what the first one does. -/
theorem Agree.of_map {ε α : Type} {R : α → α → Prop} {f : α → α}
    (attempt : Except ε α) (hf : ∀ given, attempt = .ok given → R given (f given)) :
    Agree R attempt (attempt.map f) := by
  rcases attempt with reason | given
  · exact .error reason
  · exact .ok (hf given rfl)

/-- Two outcomes with the same result, and with related streams and shells. -/
structure Outcome.Paired {ε : Type} (R : Shell → Shell → Prop) (S : Streams → Streams → Prop)
    (o o' : Outcome ε) : Prop where
  /-- The result is the same. -/
  result : o'.result = o.result
  /-- The streams are related, -/
  streams : S o.streams o'.streams
  /-- and so are the shells. -/
  shell : R o.shell o'.shell

/-- The child process that a command asks for, with the variables and the directory of the session
    and on its own streams. -/
def Shell.launch (sh : Shell) (io : Streams) (program : Path) (arguments : List Bytes) : Launch :=
  { program
    arguments
    vars := sh.session.vars
    directory := sh.session.directory
    input := io.input
    output := io.output }

namespace Shell

/-- Using the streams of a command comes to the same in both shells. -/
def PairedUse (R : Shell → Shell → Prop) (S : Streams → Streams → Prop)
    (used used' : Except CommandError Unit × Streams × Shell) : Prop :=
  used'.1 = used.1 ∧ S used.2.1 used'.2.1 ∧ R used.2.2 used'.2.2

/-- The steps of built-in commands, `help` and reading apart, do the same in related shells and on
    related streams, and what they leave is related. -/
structure Pairing (R : Shell → Shell → Prop) (S : Streams → Streams → Prop) : Prop where
  /-- The sessions are the same, -/
  session {sh sh' : Shell} : R sh sh' → sh'.session = sh.session
  /-- and so are the files. -/
  files {sh sh' : Shell} : R sh sh' → sh'.host.world.files = sh.host.world.files
  /-- Directives open the same files. -/
  openIn {sh sh' : Shell} : R sh sh' → ∀ (r : Redirection) (files : FileSystem),
    r.openIn sh'.host.mask sh'.host.directory sh.session.directory files
      = r.openIn sh.host.mask sh.host.directory sh.session.directory files
  /-- The files become others. -/
  withFiles {sh sh' : Shell} : R sh sh' → ∀ files, R (sh.withFiles files) (sh'.withFiles files)
  /-- Directories hold the same names. -/
  readDirectory {sh sh' : Shell} : R sh sh' → ∀ path : Path,
    sh.host.world.files.readDirectory sh'.host.directory (sh.session.directory.join path)
      = sh.host.world.files.readDirectory sh.host.directory (sh.session.directory.join path)
  /-- The sessions go to another directory. -/
  goTo {sh sh' : Shell} : R sh sh' → ∀ target, Agree R (Builtin.goTo sh target)
    (Builtin.goTo sh' target)
  /-- The jobs that have ended are dropped. -/
  reap {sh sh' : Shell} : R sh sh' → R sh.reap.1 sh'.reap.1
  /-- The sessions are to be left. -/
  leave {sh sh' : Shell} : R sh sh' →
    R { sh with session := { sh.session with exiting := true } }
      { sh' with session := { sh'.session with exiting := true } }
  /-- The shells complain. -/
  complain {sh sh' : Shell} : R sh sh' → ∀ text, R (sh.complain text) (sh'.complain text)
  /-- Bytes are written, -/
  write {sh sh' : Shell} {io io' : Streams} : R sh sh' → S io io' → ∀ bytes,
    PairedUse R S (io.write sh bytes) (io'.write sh' bytes)
  /-- and passed on. -/
  flush {sh sh' : Shell} {io io' : Streams} : R sh sh' → S io io' → io'.flush sh' = io.flush sh
  /-- Files take the place of streams, -/
  streams {io io' : Streams} : S io io' → ∀ opened : OpenedFiles,
    S (opened.streams io) (opened.streams io')
  /-- and the streams of the caller are given back. -/
  restore {before before' after after' : Streams} : S before before' → S after after' →
    ∀ opened : OpenedFiles, S (opened.restore before after) (opened.restore before' after')

end Shell

variable {R : Shell → Shell → Prop} {S : Streams → Streams → Prop} {sh sh' : Shell}
  {io io' : Streams}

/-! ### Built-in commands -/

namespace Builtin

theorem done_paired {used used' : Except CommandError Unit × Streams × Shell}
    (h : Shell.PairedUse R S used used') : (done used).Paired R S (done used') where
  result := congrArg (Except.map fun _ => 0) h.1
  streams := h.2.1
  shell := h.2.2

theorem changeDirectory_paired (h : Shell.Pairing R S) (hsh : R sh sh') (hio : S io io')
    (operand : Option String) :
    (changeDirectory operand io sh).Paired R S (changeDirectory operand io' sh') := by
  unfold changeDirectory
  rcases operand with _ | target
  · rw [h.session hsh]
    exact done_paired (h.write hsh hio _)
  · have hgo := h.goTo hsh target
    dsimp only
    generalize goTo sh target = went, goTo sh' target = went' at hgo ⊢
    cases hgo with
    | error failure => exact ⟨rfl, hio, hsh⟩
    | ok hmoved => exact ⟨rfl, hio, hmoved⟩

theorem listDirectory_paired (h : Shell.Pairing R S) (hsh : R sh sh') (hio : S io io')
    (operand : Option String) :
    (listDirectory operand io sh).Paired R S (listDirectory operand io' sh') := by
  unfold listDirectory
  rw [h.session hsh, h.files hsh]
  simp only [h.readDirectory hsh]
  rcases sh.host.world.files.readDirectory sh.host.directory _ with cause | names
  · exact ⟨rfl, hio, hsh⟩
  · exact done_paired (h.write hsh hio _)

/-- `pause` reads a line only after its prompt is written and passed on. -/
theorem awaitLine_paired (h : Shell.Pairing R S) (hsh : R sh sh') (hio : S io io')
    (hskip : ∀ {io₁ io₁' sh₁ sh₁'},
      io.write sh (Bytes.ofString pauseMessage) = (.ok (), io₁, sh₁) → io₁.flush sh₁ = .ok () →
      S io₁ io₁' → R sh₁ sh₁' → Shell.PairedUse R S (io₁.skipLine sh₁) (io₁'.skipLine sh₁')) :
    (awaitLine io sh).Paired R S (awaitLine io' sh') := by
  have hwrote := h.write hsh hio (Bytes.ofString pauseMessage)
  unfold awaitLine
  rcases hwrite : io.write sh (Bytes.ofString pauseMessage) with ⟨written, io₁, sh₁⟩
  rcases hwrite' : io'.write sh' (Bytes.ofString pauseMessage) with ⟨written', io₁', sh₁'⟩
  rw [hwrite, hwrite'] at hwrote
  obtain ⟨rfl, hio₁, hsh₁⟩ : written' = written ∧ S io₁ io₁' ∧ R sh₁ sh₁' := hwrote
  rcases written' with failure | ⟨⟩
  · exact ⟨rfl, hio₁, hsh₁⟩
  · simp only [h.flush hsh₁ hio₁]
    rcases hflush : io₁.flush sh₁ with failure | ⟨⟩
    · exact ⟨rfl, hio₁, hsh₁⟩
    · exact done_paired (hskip hwrite hflush hio₁ hsh₁)

/-- **Built-in commands** do the same with their operands, if `pause` and `help` do. -/
theorem perform_paired (h : Shell.Pairing R S) (hsh : R sh sh') (hio : S io io') {b : Builtin}
    (hpause : b = .pause → (awaitLine io sh).Paired R S (awaitLine io' sh'))
    (hhelp : b = .help → (showManual io sh).Paired R S (showManual io' sh'))
    (operands : List String) :
    (b.perform operands io sh).Paired R S (b.perform operands io' sh') := by
  cases b with
  | cd => exact changeDirectory_paired h hsh hio operands.head?
  | dir => exact listDirectory_paired h hsh hio operands.head?
  | help => exact hhelp rfl
  | pause => exact hpause rfl
  | quit => exact ⟨rfl, hio, h.leave hsh⟩
  | jobs =>
    show (listJobs io sh).Paired R S (listJobs io' sh')
    unfold listJobs
    dsimp only
    rw [h.session (h.reap hsh)]
    exact done_paired (h.write (h.reap hsh) hio _)
  | environ =>
    show (done (io.write sh _)).Paired R S (done (io'.write sh' _))
    rw [h.session hsh]
    exact done_paired (h.write hsh hio _)
  | clr | echo => exact done_paired (h.write hsh hio _)

theorem settle_paired (h : Shell.Pairing R S) {o o' : Outcome CommandError}
    (ho : o.Paired R S o') : (settle o).Paired R S (settle o') := by
  unfold settle
  rw [ho.result]
  rcases hresult : o.result with failure | code
  · exact ho
  · refine ⟨?_, ho.streams, ho.shell⟩
    simp only [h.flush ho.shell ho.streams]

/-- They do the same with any arguments. -/
theorem run_paired (h : Shell.Pairing R S) (hsh : R sh sh') (hio : S io io') {b : Builtin}
    {arguments : List String}
    (hpause : b = .pause → (∃ operands, b.read arguments = .accepted operands) →
      (awaitLine io sh).Paired R S (awaitLine io' sh'))
    (hhelp : b = .help → (showManual io sh).Paired R S (showManual io' sh')) :
    (b.run arguments io sh).Paired R S (b.run arguments io' sh') := by
  unfold run
  rcases hread : b.read arguments with operands | _ | message
  · have hperform := perform_paired h hsh hio (hpause · ⟨operands, hread⟩) hhelp operands
    dsimp only
    split_ifs
    · exact hperform
    · exact settle_paired h hperform
  · exact done_paired (h.write hsh hio _)
  · exact ⟨rfl, hio, h.complain hsh _⟩

end Builtin

/-! ### Lines -/

namespace Shell

variable {line : String} {c : StartedCommand}

theorem Pairing.opens (h : Pairing R S) (hsh : R sh sh') {redirections : List Redirection}
    {files : FileSystem} {opened : OpenedFiles} (hopens : sh.Opens redirections files opened) :
    sh'.Opens redirections files opened := by
  unfold Opens at hopens ⊢
  rw [h.session hsh, h.files hsh]
  -- The induction is on the directives, with whatever files those before have left.
  generalize sh.host.world.files = before, ({} : OpenedFiles) = first at hopens
  induction hopens with
  | nil => exact .nil
  | cons hopen _ ih => exact .cons ((h.openIn hsh _ _).trans hopen) ih

/-- The same command is started, -/
theorem Pairing.starts (h : Pairing R S) (hsh : R sh sh') (hstarts : sh.Starts line c) :
    sh'.Starts line c :=
  ⟨hstarts.reads, h.opens hsh hstarts.opens⟩

/-- or none is, for the same reason. -/
theorem Pairing.startsNothing (h : Pairing R S) (hsh : R sh sh')
    {result : Except Failure ExitCode} {files : FileSystem}
    (hnothing : sh.StartsNothing line result files) : sh'.StartsNothing line result files := by
  have hfiles := h.files hsh
  cases hnothing with
  | unreadable hread => exact hfiles ▸ .unreadable hread
  | blank hread => exact hfiles ▸ .blank hread
  | refused hread hrefused =>
    obtain ⟨⟨before, after, opened, hsplit, hopens⟩, hnot⟩ := hrefused
    refine .refused hread ⟨⟨before, after, opened, hsplit, h.opens hsh hopens⟩, ?_⟩
    rw [h.session hsh, h.openIn hsh, hnot]
  | wordless hread hopens => exact .wordless hread (h.opens hsh hopens)

/-- **A line** does the same if its command does. -/
theorem Pairing.execute_of (h : Pairing R S) (hsh : R sh sh') (hio : S io io')
    (hcommand : ∀ c, sh.Starts line c →
      (sh.outcomeOf c io).Paired R S (sh'.outcomeOf c io')) :
    (sh.execute line io).Paired R S (sh'.execute line io') := by
  rcases sh.starts_or_not line with ⟨c, hstarts⟩ | ⟨result, files, hnothing⟩
  · obtain ⟨hresult, hstreams, hshell⟩ := hcommand c hstarts
    rw [execute_of_starts hstarts, execute_of_starts (h.starts hsh hstarts)]
    exact ⟨congrArg (Except.mapError CommandError.classify) hresult,
      h.restore hio hstreams c.opened, hshell⟩
  · rw [hnothing.execute_eq, (h.startsNothing hsh hnothing).execute_eq]
    exact ⟨rfl, hio, h.withFiles hsh files⟩

/-- The pairing is kept by reading, and by what programs do. -/
structure Launching (R : Shell → Shell → Prop) (S : Streams → Streams → Prop) : Prop
    extends Pairing R S where
  /-- A line is read. -/
  skipLine {sh sh' : Shell} {io io' : Streams} : R sh sh' → S io io' →
    PairedUse R S (io.skipLine sh) (io'.skipLine sh')
  /-- What the shell wrote before is passed on. -/
  passOn {sh sh' : Shell} : R sh sh' → Streams.flush {} sh' = Streams.flush {} sh
  /-- A program is looked for. -/
  program? {sh sh' : Shell} : R sh sh' → ∀ c : ProgramCommand, c.program? sh' = c.program? sh
  /-- A child is started, -/
  spawn {sh sh' : Shell} {io io' : Streams} : R sh sh' → S io io' → ∀ program arguments,
    Agree (fun child child' => child.1 = child'.1 ∧
        R { sh with host := child.2 } { sh' with host := child'.2 })
      (sh.host.spawn (sh.launch io program arguments))
      (sh'.host.spawn (sh'.launch io' program arguments))
  /-- and waited for, -/
  wait {sh sh' : Shell} : R sh sh' → ∀ pid,
    Agree (fun ended ended' => ended.1 = ended'.1 ∧
        R { sh with host := ended.2 } { sh' with host := ended'.2 })
      (sh.host.wait pid) (sh'.host.wait pid)
  /-- or recorded as a job. -/
  record {sh sh' : Shell} : R sh sh' → ∀ (c : ProgramCommand) (pid : Nat),
    R (c.record pid sh) (c.record pid sh')

end Shell

/-! ### Programs -/

namespace Builtin

/-- The failure of a pager that cannot be run. -/
def pagerFailure (sh : Shell) (cause : IoError) : CommandError :=
  (CommandError.ofIo cause).within ("help: cannot start pager '" ++ sh.session.help.pager ++ "'")

/-- The child process that showing the manual asks for. -/
def pagerRequest (io : Streams) (sh : Shell) : Launch :=
  sh.launch io ⟨Bytes.ofString sh.session.help.pager⟩
    [Bytes.ofString sh.session.help.pager, sh.session.help.manual.bytes]

/-- Showing the manual asks for that child, once what was written before is passed on. -/
theorem showManual_eq (io : Streams) (sh : Shell) : showManual io sh =
    match Streams.flush {} sh with
    | .error failure => ⟨.error failure, io, sh⟩
    | .ok () =>
      match sh.host.spawn (pagerRequest io sh) with
      | .error cause => ⟨.error (pagerFailure sh cause), io, sh⟩
      | .ok (pid, started) =>
        match started.wait pid with
        | .error cause => ⟨.error (pagerFailure sh cause), io, sh⟩
        | .ok (status, host) => ⟨.ok (status.code?.getD pagerKilled), io, { sh with host }⟩ := by
  rfl

/-- The manual is shown in the same way. -/
theorem showManual_paired (h : Shell.Launching R S) (hsh : R sh sh') (hio : S io io') :
    (showManual io sh).Paired R S (showManual io' sh') := by
  have hfailure : pagerFailure sh' = pagerFailure sh := by
    unfold pagerFailure
    rw [h.session hsh]
  have hrequest : pagerRequest io' sh' = sh'.launch io' ⟨Bytes.ofString sh.session.help.pager⟩
      [Bytes.ofString sh.session.help.pager, sh.session.help.manual.bytes] := by
    unfold pagerRequest
    rw [h.session hsh]
  have hspawn := h.spawn hsh hio ⟨Bytes.ofString sh.session.help.pager⟩
    [Bytes.ofString sh.session.help.pager, sh.session.help.manual.bytes]
  rw [← hrequest] at hspawn
  rw [showManual_eq, showManual_eq, h.passOn hsh, hfailure]
  -- From here on each step fails in both shells or in neither.
  rcases Streams.flush {} sh with failure | ⟨⟩
  · exact ⟨rfl, hio, hsh⟩
  · unfold pagerRequest at hspawn ⊢
    generalize sh.host.spawn _ = child, sh'.host.spawn _ = child' at hspawn ⊢
    rcases hspawn with cause | @⟨⟨pid, started⟩, ⟨pid', started'⟩, hchild⟩
    · exact ⟨rfl, hio, hsh⟩
    · obtain ⟨rfl : pid = pid', hstarted⟩ := hchild
      have hwait := h.wait hstarted pid
      dsimp only at hwait ⊢
      generalize started.wait pid = ended, started'.wait pid = ended' at hwait ⊢
      rcases hwait with cause | @⟨⟨status, host⟩, ⟨status', host'⟩, hboth⟩
      · exact ⟨rfl, hio, hsh⟩
      · obtain ⟨rfl : status = status', hended⟩ := hboth
        exact ⟨rfl, hio, hended⟩

end Builtin

/-- **Programs** do the same. -/
theorem ProgramCommand.run_paired (h : Shell.Launching R S) (hsh : R sh sh') (hio : S io io')
    (c : ProgramCommand) : (c.run io sh).Paired R S (c.run io' sh') := by
  have hrequest (io : Streams) (sh : Shell) (program : Path) : c.request program io sh
      = sh.launch io program ((c.name :: c.arguments).map Bytes.ofString) := rfl
  unfold run
  rw [h.program? hsh, h.passOn hsh]
  rcases c.program? sh with _ | program
  · exact ⟨rfl, hio, hsh⟩
  · rcases Streams.flush {} sh with failure | ⟨⟩
    · exact ⟨rfl, hio, hsh⟩
    · simp only [hrequest]
      have hspawn := h.spawn hsh hio program ((c.name :: c.arguments).map Bytes.ofString)
      generalize sh.host.spawn _ = child, sh'.host.spawn _ = child' at hspawn ⊢
      rcases hspawn with cause | @⟨⟨pid, started⟩, ⟨pid', started'⟩, hchild⟩
      · exact ⟨rfl, hio, hsh⟩
      · obtain ⟨rfl : pid = pid', hstarted⟩ := hchild
        cases c.background with
        | true => exact ⟨rfl, hio, h.record hstarted c pid⟩
        | false =>
          have hwait := h.wait hstarted pid
          dsimp only at hwait ⊢
          generalize started.wait pid = ended, started'.wait pid = ended' at hwait ⊢
          rcases hwait with cause | @⟨⟨status, host⟩, ⟨status', host'⟩, hboth⟩
          · exact ⟨rfl, hio, hstarted⟩
          · obtain ⟨rfl : status = status', hended⟩ := hboth
            exact ⟨rfl, hio, hended⟩

namespace Shell.Launching

/-- So do commands by name, -/
theorem invoke (h : Launching R S) (hsh : R sh sh') (hio : S io io') (name : String)
    (arguments : List String) (background : Bool) :
    (sh.invoke name arguments background io).Paired R S
      (sh'.invoke name arguments background io') := by
  unfold Shell.invoke
  rcases Builtin.ofName? name with _ | b
  · exact ProgramCommand.run_paired h hsh hio _
  · exact Builtin.run_paired h.toPairing hsh hio
      (fun _ _ => Builtin.awaitLine_paired h.toPairing hsh hio fun _ _ hio₁ hsh₁ =>
        h.skipLine hsh₁ hio₁)
      (fun _ => Builtin.showManual_paired h hsh hio)

/-- **and all lines.** -/
theorem execute (h : Launching R S) (hsh : R sh sh') (hio : S io io') (line : String) :
    (sh.execute line io).Paired R S (sh'.execute line io') :=
  h.execute_of hsh hio fun c _ =>
    h.invoke (h.withFiles hsh c.files) (h.streams hio c.opened) c.name c.arguments c.background

end Shell.Launching

end CommandShell

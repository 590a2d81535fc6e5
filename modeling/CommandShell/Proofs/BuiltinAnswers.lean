import CommandShell.Proofs.LookedUpNames
import CommandShell.Proofs.OwnInput
import CommandShell.Proofs.PlainOperands

namespace CommandShell

/-!
# BuiltinAnswers — what built-in commands write, apart from what else they do

All built-in commands but `dir` and `help` know what to write before they write it, and what they
write does not change what else they do:

* `Outlet.Takes` — an outlet takes bytes and passes them on;
* `Builtin.text` — the bytes that a command writes;
* `Streams.quiet`, `Outcome.Answers` — an outcome is that of a command without output, but for bytes
  that were written;
* `Builtin.run_answers` — that is so for these commands;
* `Builtin.run_quiet_withFiles` — and without output, they do the same on files in which a file was
  opened for writing.
-/

/-! ### Writing -/

namespace Outlet

/-- The outlet takes the bytes, and passes them on when it is asked to. -/
def Takes (outlet : Outlet) (w : World) (bytes : Bytes) : Prop :=
  (outlet.write w bytes).1 = .ok () ∧
    (outlet.write w bytes).2.1.flush (outlet.write w bytes).2.2 = .ok ()

variable {outlet : Outlet} {w : World}

/-- Without bytes nothing happens to the world. -/
theorem write_nil_world (outlet : Outlet) (w : World) : (outlet.write w []).2.2 = w := by
  cases outlet with
  | discard | memory => rfl
  | terminal =>
    show { w with terminal := { w.terminal with output := (w.terminal.output.put []).2 } } = w
    rw [Capture.put_nil]
  | diagnostics =>
    show { w with terminal := { w.terminal with errors := (w.terminal.errors.put []).2 } } = w
    rw [Capture.put_nil]
  | file handle =>
    unfold write
    dsimp only
    rcases hwrite : w.files.write handle.node _ [] with reason | files
    · rfl
    · rw [FileSystem.write_nil hwrite]

/-- A regular file takes everything at its end. -/
theorem takes_of_atEnd {handle : Handle} {mode : Nat} {content : Bytes}
    (hfile : w.files.node? handle.node = some (.file mode content)) (hend : handle.AtEnd w.files)
    (bytes : Bytes) : (Outlet.file handle).Takes w bytes := by
  unfold Takes
  rw [write_eq_at_end hfile hend]
  exact ⟨rfl, rfl⟩

/-- What takes no bytes passes on what it has. -/
theorem Takes.flush (h : outlet.Takes w []) : outlet.flush w = .ok () := by
  have hflush := h.2
  rw [write_nil_world] at hflush
  cases outlet with
  | memory capture =>
    have hput : ((Outlet.memory capture).write w []).2.1 = .memory capture := by
      show Outlet.memory (capture.put []).2 = _
      rw [Capture.put_nil]
    rwa [hput] at hflush
  | discard | terminal | diagnostics => exact hflush
  | file => rfl

/-- Only standard error output itself gets anything there. -/
theorem write_errors (h : outlet ≠ .diagnostics) (w : World) (bytes : Bytes) :
    (outlet.write w bytes).2.2.terminal.errors = w.terminal.errors := by
  cases outlet with
  | diagnostics => exact absurd rfl h
  | file handle => rw [write_file_terminal]
  | discard | memory | terminal => rfl

/-- Bytes that are written make no difference to which nodes can be read. -/
theorem write_readability (outlet : Outlet) (w : World) (bytes : Bytes) (id : NodeId) :
    (outlet.write w bytes).2.2.files.readability id = w.files.readability id := by
  rcases outlet.write_files w bytes with hsame | ⟨id', mode, content, content', -, hfile, hfiles⟩
  · rw [hsame]
  · rw [hfiles, FileSystem.readability, FileSystem.readability]
    by_cases hid : id = id'
    · rw [hid, FileSystem.content, FileSystem.node?_setNode_self hfile, FileSystem.content, hfile]
      rfl
    · rw [FileSystem.content, FileSystem.node?_setNode_of_ne hid, FileSystem.content]

end Outlet

/-! ### Reading a line -/

namespace Inlet

/-- What reading a line leaves of the standard input. -/
def rest (inlet : Inlet) (supply : Supply) : Supply :=
  match inlet with
  | .terminal => supply.takeLine.2
  | _ => supply

/-- Reading a line takes it from the standard input, or nothing from there. -/
theorem readLine_world (inlet : Inlet) (w : World) :
    (inlet.readLine w).2.2 = w.withInput (inlet.rest w.terminal.input) := by
  cases inlet with
  | nothing | memory | terminal => rfl
  | file handle =>
    unfold readLine readBy
    dsimp only
    rcases w.files.content handle.node with reason | content <;> rfl

/-- Whether a line can be read is a matter of the standard input, and of whether a file can be
    read. -/
theorem readLine_isOk (inlet : Inlet) {w w' : World} (hinput : w'.terminal.input = w.terminal.input)
    (hfile : ∀ handle, inlet = .file handle →
      w'.files.readability handle.node = w.files.readability handle.node) :
    ((inlet.readLine w').1.map fun _ => ()) = (inlet.readLine w).1.map fun _ => () := by
  cases inlet with
  | nothing | memory => rfl
  | terminal =>
    show (w'.terminal.input.takeLine.1.map fun _ => ())
      = w.terminal.input.takeLine.1.map fun _ => ()
    rw [hinput]
  | file handle =>
    -- A supply without a failure always has a line, be it empty.
    have hline : ∀ content : Bytes,
        ((Supply.takeLine { pending := content }).1.map fun _ => ()) = .ok () := by
      intro content
      rw [Supply.takeLine_eq rfl]
      rfl
    have hreads : ∀ w : World, (((Inlet.file handle).readLine w).1.map fun _ => ())
        = w.files.readability handle.node := by
      intro w
      unfold readLine readBy FileSystem.readability
      dsimp only
      rcases w.files.content handle.node with reason | content
      · rfl
      · exact hline _
    rw [hreads, hreads, hfile handle rfl]

end Inlet

namespace Streams

theorem skipLine_shell (io : Streams) (sh : Shell) :
    (io.skipLine sh).2.2 = sh.withInput (io.input.rest sh.input) := by
  show ({ sh with host := { sh.host with world := (io.input.readLine sh.host.world).2.2 } } : Shell)
    = _
  rw [Inlet.readLine_world]
  rfl

theorem skipLine_isOk {io io' : Streams} {sh sh' : Shell} (hio : io'.input = io.input)
    (hinput : sh'.input = sh.input) (hfile : ∀ handle, io.input = .file handle →
      sh'.host.world.files.readability handle.node
        = sh.host.world.files.readability handle.node) :
    (io'.skipLine sh').1 = (io.skipLine sh).1 := by
  have hsame : ((io.input.readLine sh'.host.world).1.map fun _ => ())
      = (io.input.readLine sh.host.world).1.map fun _ => () :=
    Inlet.readLine_isOk io.input hinput hfile
  rw [← hio] at hsame
  unfold skipLine
  dsimp only
  rw [hsame, hio]

/-- The streams with an output that keeps nothing. -/
def quiet (io : Streams) : Streams := { io with output := .discard }

/-- What is taken and passed on is written successfully. -/
theorem write_of_takes {io : Streams} {sh : Shell} {bytes : Bytes}
    (h : io.output.Takes sh.host.world bytes) :
    io.write sh bytes = (.ok (), (io.write sh bytes).2.1, (io.write sh bytes).2.2) ∧
      (io.write sh bytes).2.1.flush (io.write sh bytes).2.2 = .ok () := by
  have hwrite : (io.write sh bytes).1 = .ok () := by
    show ((io.output.write sh.host.world bytes).1.mapError _ : Except CommandError Unit) = .ok ()
    rw [h.1]
    rfl
  have hflush : (io.write sh bytes).2.1.flush (io.write sh bytes).2.2 = .ok () := by
    show (((io.output.write sh.host.world bytes).2.1.flush
      (io.output.write sh.host.world bytes).2.2).mapError _ : Except CommandError Unit) = .ok ()
    rw [h.2]
    rfl
  exact ⟨Prod.ext hwrite rfl, hflush⟩

end Streams

/-! ### What commands write -/

namespace Builtin

/-- The bytes that a command with accepted operands writes, of those that write anything before they
    do anything else of consequence. -/
def answerTo (b : Builtin) (operands : List String) (sh : Shell) : Bytes :=
  match b with
  | .cd =>
    match operands.head? with
    | none => Bytes.ofString (sh.session.directory.display ++ "\n")
    | some _ => []
  | .clr => Bytes.ofString clearSequence
  | .environ => variableLines sh.session.vars
  | .echo => Bytes.ofString (echoLine operands)
  | .pause => Bytes.ofString pauseMessage
  | .jobs => Bytes.ofString (JobTable.listing sh.reap.1.session.jobs)
  | .dir | .help | .quit => []

/-- The bytes that it writes whatever its arguments are: to a request for usage its explanation, and
    to its output nothing if the arguments are wrong. -/
def text (b : Builtin) (arguments : List String) (sh : Shell) : Bytes :=
  match b.read arguments with
  | .accepted operands => b.answerTo operands sh
  | .usage => b.explanation
  | .rejected _ => []

/-- It is the same whatever the files are. -/
theorem text_withFiles (b : Builtin) (arguments : List String) (sh : Shell) (files : FileSystem) :
    b.text arguments (sh.withFiles files) = b.text arguments sh := by
  unfold text
  cases b <;> rfl

end Builtin

/-- The outcome of a command is the given one, of a command without output, but for bytes that it
    wrote. -/
structure Outcome.Answers (o quiet : Outcome CommandError) (io : Streams) (sh : Shell)
    (bytes : Bytes) : Prop where
  /-- The result is the same. -/
  result : o.result = quiet.result
  /-- So is the shell, but for the bytes. -/
  shell : o.shell = (io.write quiet.shell bytes).2.2
  /-- The output has got them, or was not used at all. -/
  output : o.streams.output = (io.write sh bytes).2.1.output ∨
    bytes = [] ∧ o.streams.output = io.output

namespace Outcome.Answers

variable {o quiet : Outcome CommandError} {io : Streams} {sh : Shell}

/-- An outcome without any bytes. -/
theorem of_silent (hresult : o.result = quiet.result) (hshell : o.shell = quiet.shell)
    (houtput : o.streams.output = io.output) : o.Answers quiet io sh [] where
  result := hresult
  shell := by
    have hworld := io.output.write_nil_world quiet.shell.host.world
    show o.shell = { quiet.shell with
      host := { quiet.shell.host with world := (io.output.write quiet.shell.host.world []).2.2 } }
    rw [hworld, hshell]
  output := .inr ⟨rfl, houtput⟩

end Outcome.Answers

namespace Builtin

open Outcome

variable {b : Builtin} {arguments operands : List String} {io : Streams} {sh : Shell}
  {bytes : Bytes}

/-- A command that only writes. -/
theorem done_write_answers (h : io.output.Takes sh.host.world bytes) :
    (done (io.write sh bytes)).Answers (done (io.quiet.write sh bytes)) io sh bytes := by
  obtain ⟨hwrite, -⟩ := Streams.write_of_takes h
  rw [hwrite]
  exact ⟨rfl, rfl, .inl rfl⟩

/-- What is taken and passed on is a success. -/
theorem settle_write_of_takes (h : io.output.Takes sh.host.world bytes) :
    settle (done (io.write sh bytes))
      = ⟨.ok 0, (io.write sh bytes).2.1, (io.write sh bytes).2.2⟩ := by
  obtain ⟨hwrite, hflush⟩ := Streams.write_of_takes h
  rw [hwrite]
  unfold settle done
  dsimp only [Except.map]
  rw [hflush]

/-- A command that writes and has that passed on. -/
theorem settle_write_answers (h : io.output.Takes sh.host.world bytes) :
    (settle (done (io.write sh bytes))).Answers (settle (done (io.quiet.write sh bytes))) io sh
      bytes := by
  rw [settle_write_of_takes h]
  exact ⟨rfl, rfl, .inl rfl⟩

/-- A command that writes nothing, on an output that passes on what it has. -/
theorem settle_ok_answers (after : Shell) (h : io.output.Takes sh.host.world [])
    (hworld : after.host.world = sh.host.world) (code : ExitCode) :
    (settle ⟨.ok code, io, after⟩).Answers (settle ⟨.ok code, io.quiet, after⟩) io sh [] := by
  have hflush : io.flush after = .ok () := by
    unfold Streams.flush
    rw [hworld, h.flush]
    rfl
  have hsettle : settle ⟨.ok code, io, after⟩ = ⟨.ok code, io, after⟩ := by
    unfold settle
    dsimp only
    rw [hflush]
    rfl
  rw [hsettle]
  exact .of_silent rfl rfl rfl

/-- `cd` writes where the session is, or goes elsewhere and writes nothing. -/
theorem changeDirectory_answers (operands : List String)
    (h : io.output.Takes sh.host.world (Builtin.cd.answerTo operands sh)) :
    (settle (changeDirectory operands.head? io sh)).Answers
      (settle (changeDirectory operands.head? io.quiet sh)) io sh
      (Builtin.cd.answerTo operands sh) := by
  cases operands with
  | nil => exact settle_write_answers h
  | cons target rest =>
    have hnothing : Builtin.cd.answerTo (target :: rest) sh = [] := rfl
    rw [hnothing] at h ⊢
    simp only [List.head?_cons, changeDirectory]
    rcases hgo : goTo sh target with failure | moved
    · exact .of_silent rfl rfl rfl
    · have hworld : moved.host.world = sh.host.world := by
        obtain ⟨found, host, -, hmoves, rfl⟩ := goTo_eq_ok.1 hgo
        obtain ⟨-, found', -, -, rfl⟩ := Host.changeDirectory_eq_ok.1 hmoves
        rfl
      exact settle_ok_answers moved h hworld 0

/-- `pause` writes its prompt before it reads, and that makes no difference to whether it can. -/
theorem awaitLine_answers (h : io.output.Takes sh.host.world (Bytes.ofString pauseMessage)) :
    (settle (awaitLine io sh)).Answers (settle (awaitLine io.quiet sh)) io sh
      (Bytes.ofString pauseMessage) := by
  obtain ⟨hwrite, hflush⟩ := Streams.write_of_takes h
  set prompted := (io.write sh (Bytes.ofString pauseMessage)).2
  have hawait : awaitLine io sh = done (prompted.1.skipLine prompted.2) := by
    unfold awaitLine
    rw [hwrite]
    dsimp only
    rw [hflush]
  have hquiet : awaitLine io.quiet sh = done (io.quiet.skipLine sh) := rfl
  have hread : (prompted.1.skipLine prompted.2).1 = (io.quiet.skipLine sh).1 := by
    refine Streams.skipLine_isOk rfl (io.write_shell_input sh _) fun handle _ => ?_
    exact io.output.write_readability sh.host.world _ handle.node
  -- Afterwards the output can still be passed on.
  have hflushed : (prompted.1.skipLine prompted.2).2.1.flush
      (prompted.1.skipLine prompted.2).2.2 = .ok () := by
    rw [Streams.skipLine_shell, Streams.flush_withInput]
    exact hflush
  have hshell : (prompted.1.skipLine prompted.2).2.2
      = (io.write (io.quiet.skipLine sh).2.2 (Bytes.ofString pauseMessage)).2.2 := by
    rw [Streams.skipLine_shell, Streams.skipLine_shell, Streams.write_withInput]
    have hinput : prompted.2.input = sh.input := io.write_shell_input sh _
    rw [hinput]
    rfl
  rw [hawait, hquiet]
  refine ⟨?_, ?_, .inl ?_⟩
  · unfold settle done
    dsimp only
    rw [hread]
    rcases (io.quiet.skipLine sh).1 with failure | ⟨⟩
    · rfl
    · dsimp only [Except.map]
      rw [hflushed]
      rfl
  · rw [settle_shell, settle_shell]
    exact hshell
  · rw [settle_streams]
    rfl

/-- **Built-in commands** other than `dir` and `help` write their text, and else do what they do
    without output. -/
theorem settle_perform_answers (hdir : b ≠ .dir) (hhelp : b ≠ .help)
    (h : io.output.Takes sh.host.world (b.answerTo operands sh)) :
    (settle (b.perform operands io sh)).Answers (settle (b.perform operands io.quiet sh)) io sh
      (b.answerTo operands sh) := by
  cases b with
  | cd => exact changeDirectory_answers operands h
  | dir => exact absurd rfl hdir
  | help => exact absurd rfl hhelp
  | pause => exact awaitLine_answers h
  | quit =>
    exact settle_ok_answers { sh with session := { sh.session with exiting := true } } h rfl 0
  | jobs =>
    -- What is polled has nothing to do with the output.
    have hworld : io.output.Takes sh.reap.1.host.world
        (Bytes.ofString (JobTable.listing sh.reap.1.session.jobs)) := h
    have hreaped := settle_write_answers hworld
    exact ⟨hreaped.result, hreaped.shell, hreaped.output⟩
  | clr | environ | echo => exact settle_write_answers h

theorem run_answers (hdir : b ≠ .dir) (hhelp : b ≠ .help)
    (h : io.output.Takes sh.host.world (b.text arguments sh)) :
    (b.run arguments io sh).Answers (b.run arguments io.quiet sh) io sh (b.text arguments sh) := by
  unfold text at h ⊢
  unfold run
  rcases hread : b.read arguments with operands | _ | message
  · simp only [hread] at h
    simp only [if_neg hhelp]
    exact settle_perform_answers hdir hhelp h
  · simp only [hread] at h
    exact done_write_answers h
  · exact .of_silent rfl rfl rfl

/-! ### Other files -/

/-- `cd` goes to the same place on files in which its operand leads to the same. -/
theorem goTo_withFiles {files : FileSystem} {target : String}
    (hcanonical : files.canonicalize sh.host.directory
        (sh.session.directory.join (Path.ofString target))
      = sh.host.world.files.canonicalize sh.host.directory
        (sh.session.directory.join (Path.ofString target)))
    (hdirectory : ∀ id, files.isDirectory id = sh.host.world.files.isDirectory id) :
    goTo (sh.withFiles files) target = (goTo sh target).map (·.withFiles files) := by
  unfold goTo
  dsimp only
  rw [Shell.withFiles_session, Shell.withFiles_host, Host.withFiles_files, Host.withFiles_directory,
    hcanonical]
  rcases hfound : sh.host.world.files.canonicalize sh.host.directory
    (sh.session.directory.join (Path.ofString target)) with cause | found
  · rfl
  · -- What is found has a path that leads to it in both, if the system looks at it at all.
    have hmoves : (sh.host.withFiles files).changeDirectory found.path
        = (sh.host.changeDirectory found.path).map (·.withFiles files) := by
      have hlocate : files.locate sh.host.directory found.path
          = sh.host.world.files.locate sh.host.directory found.path := by
        rcases hcheck : FileSystem.checkPath found.path with reason | ⟨⟩
        · unfold FileSystem.locate
          rw [hcheck]
          rfl
        · rw [FileSystem.locate_canonical hfound hcheck,
            FileSystem.locate_canonical (hcanonical.trans hfound) hcheck]
      unfold Host.changeDirectory FileSystem.guarded
      rw [Host.withFiles_files, Host.withFiles_directory, hlocate]
      split_ifs
      · rfl
      · rcases sh.host.world.files.locate sh.host.directory found.path with reason | place
        · rfl
        · simp only [bind, Except.bind, hdirectory]
          split_ifs <;> rfl
    simp only [hmoves]
    rcases sh.host.changeDirectory found.path with cause | host <;> rfl

/-- **Without output**, these commands do the same on other files, if the operand of `cd` leads to
    the same in them, and if they can be read like the files before. -/
theorem run_quiet_withFiles (hdir : b ≠ .dir) (hhelp : b ≠ .help) {files : FileSystem}
    (hcd : ∀ target, b = .cd → b.read arguments = .accepted [target] →
      goTo (sh.withFiles files) target = (goTo sh target).map (·.withFiles files))
    (hinput : ∀ handle, io.input = .file handle →
      files.readability handle.node = sh.host.world.files.readability handle.node) :
    (b.run arguments io.quiet (sh.withFiles files)).result
        = (b.run arguments io.quiet sh).result ∧
      (b.run arguments io.quiet (sh.withFiles files)).shell
        = (b.run arguments io.quiet sh).shell.withFiles files := by
  unfold run
  rcases hread : b.read arguments with operands | _ | message
  · simp only [if_neg hhelp]
    cases b with
    | cd =>
      rcases read_cd_cases hread with rfl | ⟨target, rfl⟩
      · exact ⟨rfl, rfl⟩
      · show (settle (changeDirectory (some target) _ _)).result
            = (settle (changeDirectory (some target) _ _)).result ∧
          (settle (changeDirectory (some target) _ _)).shell
            = (settle (changeDirectory (some target) _ _)).shell.withFiles files
        unfold changeDirectory
        dsimp only
        rw [hcd target rfl hread]
        rcases goTo sh target with failure | moved <;> exact ⟨rfl, rfl⟩
    | dir => exact absurd rfl hdir
    | help => exact absurd rfl hhelp
    | pause =>
      have hsame : (io.quiet.skipLine (sh.withFiles files)).1 = (io.quiet.skipLine sh).1 :=
        Streams.skipLine_isOk rfl rfl hinput
      show (settle (done (io.quiet.skipLine (sh.withFiles files)))).result
          = (settle (done (io.quiet.skipLine sh))).result ∧
        (settle (done (io.quiet.skipLine (sh.withFiles files)))).shell
          = (settle (done (io.quiet.skipLine sh))).shell.withFiles files
      rw [settle_shell, settle_shell]
      refine ⟨?_, ?_⟩
      · unfold settle done
        dsimp only
        rw [hsame]
        rcases (io.quiet.skipLine sh).1 with failure | ⟨⟩ <;> rfl
      · show (io.quiet.skipLine (sh.withFiles files)).2.2
          = (io.quiet.skipLine sh).2.2.withFiles files
        rw [Streams.skipLine_shell, Streams.skipLine_shell]
        rfl
    | clr | environ | echo | quit | jobs => exact ⟨rfl, rfl⟩
  · exact ⟨rfl, rfl⟩
  · exact ⟨rfl, rfl⟩

end Builtin

end CommandShell

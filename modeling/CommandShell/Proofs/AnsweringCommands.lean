import CommandShell.LineExecution
import CommandShell.Proofs.TargetFiles
import CommandShell.Tools.Files

namespace CommandShell

/-!
# AnsweringCommands — commands that only write an answer

The answer of `echo` are its arguments. The answer of a filter is a function of its arguments and of
what it can read. Neither does anything to the files and to the terminal but write its answer:

* `Outcome.Wrote` — a command wrote bytes, and nothing else of consequence happened;
* `Builtin.run_echo` — `echo` writes its arguments;
* `Shell.IsFilter` — a program that exists and writes an answer, as long as nobody changes more than
  the files that may be written;
* `Shell.IsFilter.run` — running it, in whatever state such changes lead to.
-/

/-! ### Writing -/

namespace FileSystem

variable {fs files : FileSystem} {id : NodeId} {offset mode : Nat} {content bytes : Bytes}

/-- Writing changes the bytes of a file, or nothing. -/
theorem write_eq_ok (h : fs.write id offset bytes = .ok files) :
    files = fs ∨ ∃ mode content content', fs.node? id = some (.file mode content) ∧
      files = fs.setNode id (.file mode content') := by
  unfold write at h
  split at h
  · rename_i mode content hfile
    split_ifs at h
    · cases h
      exact .inl rfl
    · cases h
      exact .inr ⟨mode, content, _, hfile, rfl⟩
  · split_ifs at h
    cases h
    exact .inl rfl
  · cases h
    exact .inl rfl
  · cases h

/-- Without bytes nothing is written. -/
theorem write_nil (h : fs.write id offset [] = .ok files) : files = fs := by
  unfold write at h
  split at h
  · cases h
    rfl
  · cases h
    rfl
  · cases h
    rfl
  · cases h

/-- What is written from the end of a file on comes after its bytes. -/
theorem write_end (hfile : fs.node? id = some (.file mode content)) (bytes : Bytes) :
    fs.write id content.length bytes = .ok (fs.setNode id (.file mode (content ++ bytes))) := by
  unfold write
  rw [hfile]
  rcases bytes with _ | ⟨b, rest⟩
  · rw [List.append_nil, setNode_self hfile]
    rfl
  · have hdrop : content.drop (content.length + (b :: rest).length) = [] :=
      List.drop_eq_nil_of_le (Nat.le_add_right _ _)
    simp only [List.isEmpty_cons, Bool.false_eq_true, if_false, hdrop, List.take_length,
      Nat.sub_self, List.replicate_zero, List.append_nil]

end FileSystem

namespace Capture

/-- What was written, with further bytes after it. -/
def add (c : Capture) (bytes : Bytes) : Capture := { c with written := c.written ++ bytes }

@[simp] theorem add_nil (c : Capture) : c.add [] = c := by
  rw [add, List.append_nil]

@[simp] theorem add_add (c : Capture) (bytes bytes' : Bytes) :
    (c.add bytes).add bytes' = c.add (bytes ++ bytes') := by
  rw [add, add, add, List.append_assoc]

/-- Without bytes nothing is taken. -/
theorem put_nil (c : Capture) : c.put [] = (.ok (), c) := by
  unfold put
  split
  · rw [List.append_nil]
  · rename_i hroom
    simp [← hroom]

/-- With room for everything, everything is taken. -/
theorem put_of_room {c : Capture} (h : c.room = none) (bytes : Bytes) :
    c.put bytes = (.ok (), c.add bytes) := by
  unfold put
  split
  · rfl
  · rename_i hroom
    rw [h] at hroom
    cases hroom

end Capture

namespace Outlet

/-- The file that an outlet keeps open stays the same. -/
theorem write_openNode? (outlet : Outlet) (w : World) (bytes : Bytes) :
    (outlet.write w bytes).2.1.openNode? = outlet.openNode? := by
  rcases outlet with _ | _ | _ | _ | handle
  case file =>
    unfold write
    simp only
    rcases w.files.write handle.node _ bytes with reason | files <;> rfl
  all_goals rfl

/-- What cannot be passed on could not be passed on before. -/
theorem write_flushFailure (outlet : Outlet) (w : World) (bytes : Bytes) :
    (outlet.write w bytes).2.2.terminal.output.flushFailure
      = w.terminal.output.flushFailure := by
  rcases outlet with _ | _ | _ | _ | handle
  case terminal =>
    show (w.terminal.output.put bytes).2.flushFailure = _
    unfold Capture.put
    rcases w.terminal.output.room with _ | ⟨room, reason⟩ <;> rfl
  case file =>
    unfold write
    simp only
    rcases w.files.write handle.node _ bytes with reason | files <;> rfl
  all_goals rfl

/-- Only a file can be changed by writing, and only its bytes. -/
theorem write_files (outlet : Outlet) (w : World) (bytes : Bytes) :
    (outlet.write w bytes).2.2.files = w.files ∨
      ∃ id mode content content', outlet.openNode? = some id ∧
        w.files.node? id = some (.file mode content) ∧
        (outlet.write w bytes).2.2.files = w.files.setNode id (.file mode content') := by
  rcases outlet with _ | _ | _ | _ | handle
  case file =>
    unfold write
    simp only
    rcases hwrite : w.files.write handle.node _ bytes with reason | files
    · exact .inl rfl
    · rcases FileSystem.write_eq_ok hwrite with rfl | ⟨mode, content, content', hfile, rfl⟩
      · exact .inl rfl
      · exact .inr ⟨handle.node, mode, content, content', rfl, hfile, rfl⟩
  all_goals exact .inl rfl

/-- Writing to the end of a file succeeds, and puts the bytes there. -/
theorem write_eq_at_end {handle : Handle} {w : World} {mode : Nat} {content : Bytes}
    (hfile : w.files.node? handle.node = some (.file mode content))
    (hend : handle.AtEnd w.files) (bytes : Bytes) :
    (Outlet.file handle).write w bytes
      = (.ok (), .file { handle with offset := content.length + bytes.length },
          { w with files := w.files.setNode handle.node (.file mode (content ++ bytes)) }) := by
  have hcontent : w.files.content handle.node = .ok content := by
    rw [FileSystem.content, hfile]
  have hwrite := FileSystem.write_end hfile bytes
  unfold write
  by_cases happend : handle.append = true
  · simp only [if_pos happend, hcontent, hwrite]
  · obtain ⟨hoffset, hempty⟩ := hend.resolve_left happend
    rw [FileSystem.bytes?_of_file hfile] at hempty
    cases hempty
    rw [List.length_nil] at hwrite
    simp only [if_neg happend, hoffset, hwrite, List.length_nil]

/-- Writing to the end of a file. -/
theorem write_at_end {handle : Handle} {w : World} {mode : Nat} {content : Bytes}
    (hfile : w.files.node? handle.node = some (.file mode content))
    (hend : handle.AtEnd w.files) (bytes : Bytes) :
    ((Outlet.file handle).write w bytes).2.2.files
      = w.files.setNode handle.node (.file mode (content ++ bytes)) := by
  rw [write_eq_at_end hfile hend]

/-- Without bytes nothing is written. -/
theorem write_nil (outlet : Outlet) (w : World) :
    (outlet.write w []).2.2.files = w.files ∧
      (outlet.write w []).2.2.terminal.output = w.terminal.output := by
  rcases outlet with _ | _ | _ | _ | handle
  case terminal =>
    exact ⟨rfl, congrArg Prod.snd (Capture.put_nil w.terminal.output)⟩
  case file =>
    unfold write
    simp only
    rcases hwrite : w.files.write handle.node _ [] with reason | files
    · exact ⟨rfl, rfl⟩
    · exact ⟨FileSystem.write_nil hwrite, rfl⟩
  all_goals exact ⟨rfl, rfl⟩

/-- What is written depends on the files and on the standard output only. -/
theorem write_congr (outlet : Outlet) {w w' : World} (hfiles : w.files = w'.files)
    (houtput : w.terminal.output = w'.terminal.output) (bytes : Bytes) :
    (outlet.write w bytes).2.2.files = (outlet.write w' bytes).2.2.files ∧
      (outlet.write w bytes).2.2.terminal.output
        = (outlet.write w' bytes).2.2.terminal.output := by
  rcases outlet with _ | _ | _ | _ | handle
  case terminal =>
    refine ⟨hfiles, ?_⟩
    show (w.terminal.output.put bytes).2 = (w'.terminal.output.put bytes).2
    rw [houtput]
  case file =>
    unfold write
    simp only [hfiles]
    rcases w'.files.write handle.node _ bytes with reason | files
    · exact ⟨hfiles, houtput⟩
    · exact ⟨rfl, houtput⟩
  all_goals exact ⟨hfiles, houtput⟩

theorem eq_file_of_forChild {outlet : Outlet} {handle : Handle}
    (h : outlet.forChild = .file handle) : outlet = .file handle := by
  cases outlet <;> simp_all [forChild]

/-- A child keeps open what the shell does, if it can reach it. -/
theorem forChild_openNode? (outlet : Outlet) : outlet.forChild.openNode? = outlet.openNode? := by
  cases outlet <;> rfl

/-- Writing to a file leaves the terminal alone. -/
theorem write_file_terminal (handle : Handle) (w : World) (bytes : Bytes) :
    ((Outlet.file handle).write w bytes).2.2.terminal = w.terminal := by
  unfold write
  simp only
  rcases w.files.write handle.node _ bytes with reason | files <;> rfl

end Outlet

/-- Reading changes no file, and nothing that was written. -/
theorem Inlet.readAll_world (inlet : Inlet) (w : World) :
    (inlet.readAll w).2.2.files = w.files ∧
      (inlet.readAll w).2.2.terminal.output = w.terminal.output := by
  rcases inlet with _ | _ | _ | handle
  case file =>
    unfold readAll readBy
    simp only
    rcases w.files.content handle.node with reason | content <;> exact ⟨rfl, rfl⟩
  all_goals exact ⟨rfl, rfl⟩

theorem Inlet.eq_file_of_forChild {inlet : Inlet} {handle : Handle}
    (h : inlet.forChild = .file handle) : inlet = .file handle := by
  cases inlet <;> simp_all [forChild]

/-- What can be read does not depend on process ids. -/
theorem Inlet.readAll_nextPid (inlet : Inlet) (w : World) (nextPid : Nat) :
    (inlet.readAll { w with nextPid }).1 = (inlet.readAll w).1 := by
  rcases inlet with _ | _ | _ | handle
  case file =>
    unfold readAll readBy
    simp only
    rcases w.files.content handle.node with reason | content <;> rfl
  all_goals rfl

/-- Bytes were written to an outlet, and the files, the standard output of the shell's process and
    the session are as that leaves them. -/
structure Outcome.Wrote {ε : Type} (o : Outcome ε) (sh : Shell) (outlet : Outlet)
    (bytes : Bytes) : Prop where
  /-- The session stays. -/
  session : o.shell.session = sh.session
  /-- The programs stay. -/
  programs : o.shell.host.programs = sh.host.programs
  /-- The shell's process stays where it is. -/
  directory : o.shell.host.directory = sh.host.directory
  /-- The files are as writing leaves them. -/
  files : o.shell.host.world.files = (outlet.write sh.host.world bytes).2.2.files
  /-- So is the standard output. -/
  output : o.shell.host.world.terminal.output
    = (outlet.write sh.host.world bytes).2.2.terminal.output

/-- What a command wrote shows on the shell it leaves. -/
theorem Outcome.Wrote.of_shell {ε δ : Type} {o : Outcome ε} {o' : Outcome δ} {sh : Shell}
    {outlet : Outlet} {bytes : Bytes} (h : o.Wrote sh outlet bytes) (hshell : o'.shell = o.shell) :
    o'.Wrote sh outlet bytes where
  session := hshell ▸ h.session
  programs := hshell ▸ h.programs
  directory := hshell ▸ h.directory
  files := hshell ▸ h.files
  output := hshell ▸ h.output

/-! ### Echo -/

namespace Builtin

theorem settle_shell (o : Outcome CommandError) : (settle o).shell = o.shell := by
  unfold settle
  split <;> rfl

theorem settle_streams (o : Outcome CommandError) : (settle o).streams = o.streams := by
  unfold settle
  split <;> rfl

/-- **Echo** writes its arguments, whatever they are. -/
theorem run_echo (arguments : List String) (io : Streams) (sh : Shell) :
    (Builtin.echo.run arguments io sh).Wrote sh io.output
        (Bytes.ofString (echoLine arguments)) ∧
      (Builtin.echo.run arguments io sh).streams =
        { io with output :=
            (io.output.write sh.host.world (Bytes.ofString (echoLine arguments))).2.1 } := by
  have hrun : Builtin.echo.run arguments io sh
      = settle (done (io.write sh (Bytes.ofString (echoLine arguments)))) := rfl
  have hshell := settle_shell (done (io.write sh (Bytes.ofString (echoLine arguments))))
  have hstreams := settle_streams (done (io.write sh (Bytes.ofString (echoLine arguments))))
  rw [hrun]
  refine ⟨⟨?_, ?_, ?_, ?_, ?_⟩, hstreams⟩ <;> rw [hshell] <;> rfl

end Builtin

/-! ### Filters -/

/-- Whether a process does not read from the file that it writes to. -/
def Process.Apart (process : Process) : Prop :=
  ∀ input output, process.input = .file input → process.output = .file output →
    input.node ≠ output.node

/-- A program that runs as a filter under a name and with arguments: it exists, it can be started
    while the files of `written` are open for writing, and it writes what `respond` gives for what
    it can read. This is asked for as long as nothing but the files of `written` changes, and new
    files come up in the session's directory `here`; and only where it is not to read what it
    writes. -/
structure Shell.IsFilter (sh : Shell) (here : Location) (written : List NodeId) (name : String)
    (arguments : List String) (respond : Except Errno Bytes → Bytes) (path : Path)
    (program : Program) (loaded : List Bytes) : Prop where
  /-- It is no built-in command. -/
  not_builtin : Builtin.ofName? name = none
  /-- It is found by its name. -/
  found : ProgramCommand.program? ⟨name, arguments, false⟩ sh = some path
  /-- Its name, arguments and variables can be handed to the system. -/
  no_nul : (ProgramCommand.request ⟨name, arguments, false⟩ path {} sh).hasNul = false
  /-- They are not too long. -/
  fits : Execution.fits ((name :: arguments).map Bytes.ofString ++ sh.session.vars.listing) = true
  /-- It can be loaded. -/
  loads : Execution.load sh.host.programs sh.host.world.files here written
    ((name :: arguments).map Bytes.ofString) Execution.interpreterLimit path = .ok (program, loaded)
  /-- It writes its answer. -/
  answers : ∀ (process : Process) (w : World), process.arguments = loaded →
    process.vars = sh.session.vars → process.directory = here →
    process.errors = .diagnostics → process.Apart →
    FileSystem.Grown here.node written sh.host.world.files w.files →
    let ended := program (Execution.run sh.host.programs (Execution.nestingLimit - 1)) process w
    let after := (process.output.write w (respond (process.input.readAll w).1)).2.2
    ended.world.files = after.files ∧ ended.world.terminal.output = after.terminal.output

/-- A program that is found from an absolute directory is a path from the root. -/
theorem Lookup.isAbsolute_of_find {fs : FileSystem} {start : Location} {searchPath : Bytes}
    {directory name program : Path} (habsolute : directory.isAbsolute = true)
    (h : find fs start searchPath directory name = some program) :
    program.isAbsolute = true := by
  have hat : ∀ path, findAt fs start (directory.join path) = some program →
      program.isAbsolute = true := by
    intro path hpath
    unfold findAt at hpath
    split_ifs at hpath
    cases hpath
    exact Path.isAbsolute_join habsolute path
  unfold find at h
  split at h
  · cases h
  · split_ifs at h
    · exact hat _ h
    · obtain ⟨entry, -, rfl⟩ := List.mem_map.1 (List.mem_of_find?_eq_some h)
      exact Path.isAbsolute_join (Path.isAbsolute_join habsolute entry) _
  · exact hat _ h

theorem Path.contains_separator {path : Path} (h : path.isAbsolute = true) :
    path.bytes.contains separator = true := by
  obtain ⟨_ | ⟨b, rest⟩⟩ := path
  · cases h
  · have hb : b = separator := by simpa [isAbsolute] using h
    simp [hb]

namespace Shell

/-- The process that a program is started as. -/
def child (sh : Shell) (here : Location) (loaded : List Bytes) (io : Streams) : Process :=
  { pid := sh.host.world.nextPid
    parent := sh.host.world.shell.pid
    arguments := loaded
    vars := sh.session.vars
    directory := here
    mask := sh.host.mask
    input := io.input.forChild
    output := io.output.forChild
    errors := .diagnostics }

/-- What a command can read. -/
def ahead (sh : Shell) (input : Inlet) : Except Errno Bytes :=
  (input.forChild.readAll sh.host.world).1

/-- A program whose path has a separator is run in the session's directory, and read from there. -/
theorem start_in {sh : Shell} (c : ProgramCommand) (io : Streams) {here : Location} {path : Path}
    (hlocate : sh.host.world.files.locate sh.host.directory sh.session.directory = .ok here)
    (hhere : sh.host.world.files.isDirectory here.node = true)
    (hseparator : path.bytes.contains Path.separator = true) :
    sh.host.start (c.request path io sh) =
      Execution.run sh.host.programs Execution.nestingLimit
        (sh.child here ((c.name :: c.arguments).map Bytes.ofString) io) path
        { sh.host.world with nextPid := sh.host.world.nextPid + 1 } := by
  have hsep : (c.request path io sh).program.bytes.contains Path.separator = true := hseparator
  have hdirectory : sh.host.world.files.locate sh.host.directory (c.request path io sh).directory
      = .ok here := hlocate
  unfold Host.start
  rw [hdirectory]
  simp only [bind, Except.bind, hhere, Bool.not_true, Bool.false_eq_true, if_false, hsep, if_true]
  rfl

/-- A program that can be loaded starts there. -/
theorem start_eq {sh : Shell} (c : ProgramCommand) (io : Streams) {here : Location} {path : Path}
    {program : Program} {loaded : List Bytes}
    (hlocate : sh.host.world.files.locate sh.host.directory sh.session.directory = .ok here)
    (hhere : sh.host.world.files.isDirectory here.node = true) (hpath : path.isAbsolute = true)
    (hload : Execution.load sh.host.programs sh.host.world.files here
      ([io.output.forChild, .diagnostics].filterMap Outlet.openNode?)
      ((c.name :: c.arguments).map Bytes.ofString) Execution.interpreterLimit path
        = .ok (program, loaded))
    (hfits : Execution.fits ((c.name :: c.arguments).map Bytes.ofString ++ sh.session.vars.listing)
      = true) :
    sh.host.start (c.request path io sh) =
      .ok (program (Execution.run sh.host.programs (Execution.nestingLimit - 1))
        (sh.child here loaded io)
        { sh.host.world with nextPid := sh.host.world.nextPid + 1 }) := by
  rw [start_in c io hlocate hhere (Path.contains_separator hpath)]
  show Execution.run sh.host.programs (Execution.nestingLimit - 1 + 1) _ _ _ = _
  rw [Execution.run]
  simp only [child, bind, Except.bind, hload, hfits, Bool.not_true, Bool.false_eq_true, if_false]

/-- A child that starts leaves the files and the standard output as it does on its own. -/
theorem run_of_start {sh : Shell} {c : ProgramCommand} {path : Path} {io : Streams}
    {ended : Ended} {outlet : Outlet} {bytes : Bytes} (hforeground : c.background = false)
    (hprogram : c.program? sh = some path)
    (hflush : sh.host.world.terminal.output.flushFailure = none)
    (hnul : (c.request path io sh).hasNul = false)
    (hstart : sh.host.start (c.request path io sh) = .ok ended)
    (hfiles : ended.world.files = (outlet.write sh.host.world bytes).2.2.files)
    (houtput : ended.world.terminal.output
      = (outlet.write sh.host.world bytes).2.2.terminal.output) :
    (c.run io sh).Wrote sh outlet bytes ∧ (c.run io sh).streams = io := by
  have hflushed : Streams.flush {} sh = .ok () := by
    show (sh.host.world.terminal.output.flush).mapError _ = _
    rw [Capture.flush, hflush]
    rfl
  unfold ProgramCommand.run
  simp only [hprogram, hflushed, hforeground]
  unfold Host.spawn
  rw [hnul, hstart]
  simp only [Bool.false_eq_true, if_false]
  -- Whether the child is known afterwards or not, waiting for it changes neither files nor streams.
  unfold Host.wait
  split
  · rename_i hwait
    split at hwait
    · exact ⟨⟨rfl, rfl, rfl, hfiles, houtput⟩, rfl⟩
    · cases hwait
  · rename_i hwait
    split at hwait
    · cases hwait
    · cases hwait
      exact ⟨⟨rfl, rfl, rfl, hfiles, houtput⟩, rfl⟩

namespace IsFilter

variable {sh₀ sh : Shell} {here : Location} {written : List NodeId} {name : String}
  {arguments : List String} {respond : Except Errno Bytes → Bytes} {path : Path}
  {program : Program} {loaded : List Bytes}

/-- **Filters** answer in every state that differs by what may be written and made. -/
theorem run (h : sh₀.IsFilter here written name arguments respond path program loaded)
    (hsession : sh.session = sh₀.session) (hprograms : sh.host.programs = sh₀.host.programs)
    (hdirectory : sh.host.directory = sh₀.host.directory)
    (habsolute : sh.session.directory.isAbsolute = true)
    (hgrown : FileSystem.Grown here.node written sh₀.host.world.files sh.host.world.files)
    (hlocate : sh.host.world.files.locate sh.host.directory sh.session.directory = .ok here)
    (hhere : sh.host.world.files.isDirectory here.node = true)
    (hflush : sh.host.world.terminal.output.flushFailure = none) {io : Streams}
    (hopen : ∀ id, io.output.openNode? = some id →
      id ∈ written ∨ sh₀.host.world.files.node? id = none)
    (hapart : (sh.child here loaded io).Apart) :
    (sh.invoke name arguments false io).Wrote sh io.output.forChild (respond (sh.ahead io.input)) ∧
      (sh.invoke name arguments false io).streams = io := by
  have hfound : ProgramCommand.program? ⟨name, arguments, false⟩ sh = some path := by
    have hbefore := h.found
    unfold ProgramCommand.program? at hbefore ⊢
    rw [hsession, hdirectory]
    exact Lookup.find_of_grown hgrown hbefore
  have hpath : path.isAbsolute = true := Lookup.isAbsolute_of_find habsolute hfound
  have hnul : (ProgramCommand.request ⟨name, arguments, false⟩ path io sh).hasNul = false := by
    rw [← h.no_nul]
    unfold ProgramCommand.request Launch.hasNul
    rw [hsession]
  have hbusy : ∀ id ∈ [io.output.forChild, .diagnostics].filterMap Outlet.openNode?,
      id ∈ written ∨ sh₀.host.world.files.node? id = none := by
    intro id hid
    obtain ⟨outlet, houtlet, hnode⟩ := List.mem_filterMap.1 hid
    rcases List.mem_cons.1 houtlet with rfl | hdiagnostics
    · rw [Outlet.forChild_openNode?] at hnode
      exact hopen id hnode
    · rw [List.mem_singleton.1 hdiagnostics] at hnode
      cases hnode
  have hload := Execution.load_of_grown hgrown (fun _ hid => hid) hbusy h.loads
  have hfits := h.fits
  rw [← hprograms] at hload
  rw [← hsession] at hfits
  have hstart := start_eq ⟨name, arguments, false⟩ io hlocate hhere hpath hload hfits
  obtain ⟨hfiles, houtput⟩ := h.answers (sh.child here loaded io)
    { sh.host.world with nextPid := sh.host.world.nextPid + 1 } rfl
    (congrArg Session.vars hsession) rfl rfl hapart hgrown
  obtain ⟨hsameFiles, hsameOutput⟩ := io.output.forChild.write_congr
    (show ({ sh.host.world with nextPid := sh.host.world.nextPid + 1 } : World).files
      = sh.host.world.files from rfl) rfl (respond (sh.ahead io.input))
  rw [Inlet.readAll_nextPid, ← hprograms] at hfiles houtput
  have hinvoke : sh.invoke name arguments false io
      = ProgramCommand.run ⟨name, arguments, false⟩ io sh := by
    unfold invoke
    rw [h.not_builtin]
  rw [hinvoke]
  exact run_of_start rfl hfound hflush hnul hstart (hfiles.trans hsameFiles)
    (houtput.trans hsameOutput)

end IsFilter

end Shell

/-! ### A filter of the system -/

namespace Task

/-- Complaints go to the error output. -/
theorem warn_world {t : Task} (h : t.process.errors = .diagnostics) (message : String) :
    (t.warn message).world.files = t.world.files ∧
      (t.warn message).world.terminal.output = t.world.terminal.output ∧
      (t.warn message).process.errors = .diagnostics := by
  unfold warn complain
  rw [h]
  exact ⟨rfl, rfl, rfl⟩

theorem print_world {t : Task} (h : t.trouble = none) (bytes : Bytes) :
    (t.print bytes).world = (t.process.output.write t.world bytes).2.2 ∧
      (t.print bytes).process.errors = t.process.errors := by
  unfold print
  rw [h]
  exact ⟨rfl, rfl⟩

/-- Ending a program writes no more than a complaint. -/
theorem close_world {t : Task} (h : t.process.errors = .diagnostics) (code : Nat) :
    (t.close code).world.files = t.world.files ∧
      (t.close code).world.terminal.output = t.world.terminal.output := by
  unfold close
  split
  · exact ⟨rfl, rfl⟩
  · obtain ⟨hfiles, houtput, -⟩ := warn_world h _
    exact ⟨hfiles, houtput⟩

end Task

namespace Tools

/-- A process that does not read from the file that it writes to does not feed its output. -/
theorem feedsOutput_of_apart {t : Task} (h : t.process.Apart) :
    feedsOutput t inputName = false := by
  unfold feedsOutput
  simp only [if_true]
  rcases hinput : t.process.input with _ | _ | _ | input
  case file =>
    rcases houtput : t.process.output with _ | _ | _ | _ | output
    case file =>
      have hne : input.node ≠ output.node := h input output hinput houtput
      simp [inletNode?, Outlet.openNode?, hne]
    all_goals rfl
  all_goals rfl

/-- **Cat** without operands is a filter: it answers what it reads. -/
theorem cat_answers {launch : Launcher} {process : Process} {w : World}
    (harguments : process.arguments.drop 1 = []) (herrors : process.errors = .diagnostics)
    (hapart : process.Apart) :
    let ended := Tool.program cat launch process w
    let after := (process.output.write w ((process.input.readAll w).1.toOption.getD [])).2.2
    ended.world.files = after.files ∧
      ended.world.terminal.output = after.terminal.output := by
  have hcat : Tool.program cat launch process w
      = (catOne ({ launch, process, world := w }, true) inputName).1.close
        (if (catOne ({ launch, process, world := w }, true) inputName).2 then 0 else 1) := by
    unfold Tool.program
    rw [harguments]
    rfl
  have hfeeds : feedsOutput { launch, process, world := w } inputName = false :=
    feedsOutput_of_apart hapart
  obtain ⟨hreadFiles, hreadOutput⟩ := process.input.readAll_world w
  simp only [hcat]
  unfold catOne
  simp only [Option.isSome_none, Bool.false_eq_true, if_false, hfeeds, readOperand, if_true,
    Task.readInput]
  rcases hread : process.input.readAll w with ⟨reason | content, input, w'⟩
  · rw [hread] at hreadFiles hreadOutput
    obtain ⟨hfiles, houtput⟩ := process.output.write_nil w
    obtain ⟨hwarnFiles, hwarnOutput, hwarnErrors⟩ := Task.warn_world
      (show ({ launch, process := { process with input }, world := w' } : Task).process.errors
        = .diagnostics from herrors) (Quoting.ifNeeded inputName ++ ": " ++ reason.description)
    obtain ⟨hcloseFiles, hcloseOutput⟩ := Task.close_world hwarnErrors 1
    exact ⟨hcloseFiles.trans (hwarnFiles.trans (hreadFiles.trans hfiles.symm)),
      hcloseOutput.trans (hwarnOutput.trans (hreadOutput.trans houtput.symm))⟩
  · rw [hread] at hreadFiles hreadOutput
    obtain ⟨hfiles, houtput⟩ := process.output.write_congr hreadFiles hreadOutput content
    obtain ⟨hworld, herrors'⟩ := Task.print_world
      (show ({ launch, process := { process with input }, world := w' } : Task).trouble = none
        from rfl) content
    obtain ⟨hcloseFiles, hcloseOutput⟩ := Task.close_world (herrors'.trans herrors) 0
    rw [hworld] at hcloseFiles hcloseOutput
    exact ⟨hcloseFiles.trans hfiles, hcloseOutput.trans houtput⟩

end Tools

end CommandShell

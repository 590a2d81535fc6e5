import CommandShell.Proofs.BuiltinAnswers
import CommandShell.Proofs.RedirectedOutput

namespace CommandShell

/-!
# MovedOutput — a directive put into a line that has none

A directive for standard output that is put into the line of a built-in command moves what the
command writes to a file, and changes nothing else:

* `CommandLine.parse_insert` — how a line is read with a directive put between two of its words;
* `Shell.execute_of_builtin`, `Shell.execute_of_builtin_moved` — what such a line does without the
  directive and with it;
* `Shell.outputOf` — what a line writes to its output;
* `Shell.CanMove` — what is asked of the shell, the command and the directive;
  `Shell.CanMove.runs`, `Shell.CanMove.execute_runs` — the command run on the writer and on the
  file, and the line without the directive and with it;
* `Shell.execute_moves_output` — the two runs side by side.
-/

/-! ### Reading -/

namespace Interleaving

/-- A directive can be put anywhere between words. -/
theorem insert (front back : List String) (r : Redirection) :
    Interleaving (front ++ back) [r] (front ++ r.direction.operator :: r.target :: back) := by
  induction front with
  | nil => exact .directive r (of_words back)
  | cons first rest ih => exact .word first ih

end Interleaving

namespace Redirection

/-- The directive as text, with a space around it. -/
def text (r : Redirection) : String := " " ++ r.direction.operator ++ " " ++ r.target ++ " "

/-- It is taken apart to its operator and its target, wherever it stands in a line. -/
theorem words_insert {r : Redirection} (htarget : IsWord r.target) (front back : String) :
    words (front ++ r.text ++ back)
      = words front ++ r.direction.operator :: r.target :: words back := by
  have hoperator : IsWord r.direction.operator := by
    rcases r.direction with _ | _ | _ <;>
      exact ⟨by decide, by simp [Direction.operator, isDelimiter]⟩
  have hspaces : front ++ r.text ++ back
      = front ++ " " ++ (r.direction.operator ++ " " ++ (r.target ++ " " ++ back)) := by
    simp only [text, String.append_assoc]
  rw [hspaces, words_append_space, words_append_space, words_append_space,
    words_of_isWord hoperator, words_of_isWord htarget, List.singleton_append,
    List.singleton_append]

end Redirection

namespace CommandLine

variable {front back : String} {list : List String} {background : Bool} {r : Redirection}

/-- **Reading.** With a directive put between two of its words, before the first or after the last,
    a line that has none is read as the same words with that directive. -/
theorem parse_insert (hplace : CommandShell.words (front ++ back)
      = CommandShell.words front ++ CommandShell.words back)
    (hread : parse (front ++ back) = .ok (some ⟨list, [], background⟩))
    (htarget : IsWord r.target) :
    parse (front ++ r.text ++ back) = .ok (some ⟨list, [r], background⟩) := by
  obtain ⟨-, htokens⟩ := parse_eq_some_iff.1 hread
  obtain ⟨hinter, hplain, hlast⟩ := ofWords_eq_ok_iff.1 htokens
  have hmarked : CommandShell.words front ++ CommandShell.words back
      = marked ⟨list, [], background⟩ := hplace.symm.trans hinter.eq_words
  rw [parse_eq_some_iff, Redirection.words_insert htarget]
  refine ⟨by simp, ofWords_eq_ok_iff.2 ⟨?_, hplain, hlast⟩⟩
  -- The words and the marker are those of the line without the directive.
  show Interleaving (marked ⟨list, [], background⟩) [r] _
  rw [← hmarked]
  exact .insert _ _ r

end CommandLine

/-! ### Lines of built-in commands -/

namespace Shell

variable {sh : Shell} {line : String} {b : Builtin} {arguments : List String} {background : Bool}
  {io : Streams} {r : Redirection} {files : FileSystem} {handle : Handle}

/-- Without a directive, a built-in command runs on the streams of its caller. -/
theorem execute_of_builtin
    (hread : CommandLine.parse line = .ok (some ⟨b.name :: arguments, [], background⟩))
    (sh : Shell) (io : Streams) :
    sh.execute line io = (b.run arguments io sh).mapError CommandError.classify := by
  have hstarts : sh.Starts line ⟨b.name, arguments, [], background, sh.host.world.files, {}⟩ :=
    ⟨hread, .nil⟩
  rw [execute_of_starts hstarts, outcomeOf_builtin (ofName?_name b)]
  rfl

/-- With a directive for its output, it runs on the opened file, and its caller has the writer
    back. -/
theorem execute_of_builtin_moved
    (hread : CommandLine.parse line = .ok (some ⟨b.name :: arguments, [r], background⟩))
    (houtput : r.isOutput = true)
    (hopens : r.openIn sh.host.mask sh.host.directory sh.session.directory sh.host.world.files
      = .ok (files, handle)) (io : Streams) :
    let o := b.run arguments { io with output := .file handle } (sh.withFiles files)
    sh.execute line io = ⟨o.result.mapError CommandError.classify,
      { input := o.streams.input, output := io.output }, o.shell⟩ := by
  have hused : OpenedFiles.use {} r.direction handle = { output := some handle } := by
    rcases Redirection.direction_of_output houtput with hr | hr <;> rw [hr] <;> rfl
  have hstarts : sh.Starts line
      ⟨b.name, arguments, [r], background, files, OpenedFiles.use {} r.direction handle⟩ :=
    ⟨hread, .cons hopens .nil⟩
  rw [execute_of_starts hstarts, outcomeOf_builtin (ofName?_name b), hused]
  rfl

/-- The bytes that a line writes to its output: what a writer in memory holds afterwards. -/
def outputOf (sh : Shell) (line : String) (io : Streams) : Bytes :=
  match (sh.execute line { io with output := .memory {} }).streams.output with
  | .memory capture => capture.written
  | _ => []

/-- For these commands that is their text. -/
theorem outputOf_of_builtin (hdir : b ≠ .dir) (hhelp : b ≠ .help)
    (hread : CommandLine.parse line = .ok (some ⟨b.name :: arguments, [], background⟩))
    (sh : Shell) (io : Streams) : sh.outputOf line io = b.text arguments sh := by
  have htakes : (Outlet.memory {}).Takes sh.host.world (b.text arguments sh) := ⟨rfl, rfl⟩
  have hanswers : (b.run arguments { io with output := .memory {} } sh).Answers _ _ _ _ :=
    Builtin.run_answers hdir hhelp htakes
  unfold outputOf
  rw [execute_of_builtin hread]
  show (match (b.run arguments { io with output := .memory {} } sh).streams.output with
    | .memory capture => capture.written
    | _ => []) = _
  rcases hanswers.output with hwritten | ⟨hnothing, hsame⟩
  · rw [hwritten]
    exact List.nil_append _
  · rw [hsame, hnothing]

end Shell

namespace Builtin

variable {b : Builtin} {arguments : List String} {io : Streams} {sh : Shell}

/-- Without output, nothing comes to the standard output of the shell's process. -/
theorem run_quiet_terminal (hdir : b ≠ .dir) (hhelp : b ≠ .help) (arguments : List String)
    (io : Streams) (sh : Shell) :
    (b.run arguments io.quiet sh).shell.host.world.terminal.output
      = sh.host.world.terminal.output := by
  by_cases haccepted : ∃ operands, b.read arguments = .accepted operands
  · obtain ⟨operands, hread⟩ := haccepted
    rw [run_shell_of_accepted hread]
    cases b with
    | cd =>
      show (changeDirectory operands.head? io.quiet sh).shell.host.world.terminal.output = _
      rcases operands with _ | ⟨target, rest⟩
      · rfl
      · simp only [List.head?_cons, changeDirectory]
        rcases hgo : goTo sh target with failure | moved
        · rfl
        · obtain ⟨found, host, -, hmoves, rfl⟩ := goTo_eq_ok.1 hgo
          obtain ⟨-, found', -, -, rfl⟩ := Host.changeDirectory_eq_ok.1 hmoves
          rfl
    | dir => exact absurd rfl hdir
    | help => exact absurd rfl hhelp
    | pause =>
      show (io.quiet.skipLine sh).2.2.host.world.terminal.output = _
      rw [Streams.skipLine_shell]
      rfl
    | clr | environ | echo | quit | jobs => rfl
  · unfold run
    rcases hread : b.read arguments with operands | _ | message
    · exact absurd ⟨operands, hread⟩ haccepted
    · rfl
    · rfl

end Builtin

/-! ### The file -/

/-- Writing to a file leaves the other ones alone. -/
theorem Outlet.write_file_node? {handle : Handle} {id : NodeId} (h : id ≠ handle.node) (w : World)
    (bytes : Bytes) :
    ((Outlet.file handle).write w bytes).2.2.files.node? id = w.files.node? id := by
  rcases (Outlet.file handle).write_files w bytes with
    hsame | ⟨id', mode, content, content', hnode, -, hwritten⟩
  · rw [hsame]
  · cases hnode
    rw [hwritten, FileSystem.node?_setNode_of_ne h]

namespace Redirection

variable {r : Redirection} {mask : Nat} {start : Location} {directory : Path}
  {fs files : FileSystem}
  {handle : Handle}

/-- A directive for standard output opens its path for writing, at its beginning or to be
    appended to. -/
theorem openIn_opensTo (houtput : r.isOutput = true)
    (h : r.openIn mask start directory fs = .ok (files, handle)) :
    fs.OpensTo mask start (directory.join r.path) (decide (r.direction = .truncate)) files
        handle.node ∧
      handle.offset = 0 ∧ handle.append = decide (r.direction = .append) := by
  obtain ⟨hopen, hhandle⟩ := openOutput_of_openIn houtput h
  rw [hhandle]
  exact ⟨FileSystem.openOutput_opensTo hopen, rfl, rfl⟩

/-- Unless it opens a device, what is written to its file goes to the end of what is kept of the
    bytes. -/
theorem atEnd_of_openIn (houtput : r.isOutput = true)
    (h : r.openIn mask start directory fs = .ok (files, handle))
    (hdevice : ∀ kind, files.node? handle.node ≠ some (.device kind)) :
    handle.AtEnd files ∧ ∃ mode, files.node? handle.node = some (.file mode
      (if r.direction = .truncate then [] else (fs.bytes? handle.node).getD [])) := by
  obtain ⟨hopens, hoffset, happend⟩ := openIn_opensTo houtput h
  rcases hopens.device_or_file with ⟨kind, hkind⟩ | ⟨mode, hfile⟩
  · exact absurd hkind (hdevice kind)
  · simp only [decide_eq_true_eq] at hfile
    refine ⟨?_, mode, hfile⟩
    rcases direction_of_output houtput with hr | hr
    · rw [if_pos hr] at hfile
      exact .inr ⟨hoffset, FileSystem.bytes?_of_file hfile⟩
    · rw [hr] at happend
      exact .inl happend

end Redirection

/-! ### Two runs -/

namespace Shell

variable {sh : Shell} {b : Builtin} {arguments : List String} {io : Streams} {r : Redirection}
  {files : FileSystem} {handle : Handle} {said : Bytes}

/-- A shell in which what a built-in command says can be moved by a directive, from the writer of
    its caller to a file. -/
structure CanMove (sh : Shell) (b : Builtin) (arguments : List String) (io : Streams)
    (r : Redirection) (files : FileSystem) (handle : Handle) (said : Bytes) : Prop where
  /-- The directive is for standard output. -/
  output : r.isOutput = true
  /-- Its file can be opened, which leaves these files. -/
  opens : r.openIn sh.host.mask sh.host.directory sh.session.directory sh.host.world.files
    = .ok (files, handle)
  /-- If opening makes a file, its name is none that the operand of `cd` leads by. -/
  apart : ∀ target, b = .cd → b.read arguments = .accepted [target] → ∀ id name,
    sh.host.world.files.Makes sh.host.directory (sh.session.directory.join r.path) id name →
    ¬ sh.host.world.files.PathLooksUp sh.host.directory
      (sh.session.directory.join (Path.ofString target)) id name
  /-- If standard input is a file, that is there. -/
  input_there : ∀ source, io.input = .file source →
    sh.host.world.files.node? source.node ≠ none
  /-- The writer takes what is said. -/
  writer_takes : io.output.Takes sh.host.world said
  /-- So does the file. -/
  file_takes : (Outlet.file handle).Takes (sh.withFiles files).host.world said

namespace CanMove

/-- Without output, the command does the same on the files that opening leaves. -/
theorem quiet_withFiles (h : sh.CanMove b arguments io r files handle said) (hdir : b ≠ .dir)
    (hhelp : b ≠ .help) :
    (b.run arguments io.quiet (sh.withFiles files)).result
        = (b.run arguments io.quiet sh).result ∧
      (b.run arguments io.quiet (sh.withFiles files)).shell
        = (b.run arguments io.quiet sh).shell.withFiles files := by
  obtain ⟨hopens, -, -⟩ := Redirection.openIn_opensTo h.output h.opens
  refine Builtin.run_quiet_withFiles hdir hhelp (fun target hcd hread => ?_)
    fun source hsource => ?_
  · -- No name that the operand leads by is new.
    refine Builtin.goTo_withFiles ?_ hopens.namesAlike.directory
    exact hopens.namesAlike.canonicalize_eq (h.apart target hcd hread)
  · exact hopens.readability_eq (h.input_there source hsource)

/-- **Commands** say the same to the file and to the writer, and else do what they do without
    output. -/
theorem runs (h : sh.CanMove b arguments io r files handle (b.text arguments sh))
    (hdir : b ≠ .dir) (hhelp : b ≠ .help) :
    let said := b.text arguments sh
    let quiet := b.run arguments io.quiet sh
    let plain := b.run arguments io sh
    let moved := b.run arguments { io with output := .file handle } (sh.withFiles files)
    moved.result = plain.result ∧
    plain.shell = (io.write quiet.shell said).2.2 ∧
    (plain.streams.output = (io.write sh said).2.1.output ∨
      said = [] ∧ plain.streams.output = io.output) ∧
    moved.shell = (Streams.write { io with output := .file handle }
      (quiet.shell.withFiles files) said).2.2 := by
  intro said quiet plain moved
  have hplain : plain.Answers quiet io sh said :=
    Builtin.run_answers hdir hhelp h.writer_takes
  have htakes := h.file_takes
  rw [← b.text_withFiles arguments sh files] at htakes
  have hmoved : moved.Answers (b.run arguments io.quiet (sh.withFiles files))
      { io with output := .file handle } (sh.withFiles files)
      (b.text arguments (sh.withFiles files)) := Builtin.run_answers hdir hhelp htakes
  -- What was opened makes no difference to the command without output.
  obtain ⟨hresult, hshell⟩ := h.quiet_withFiles hdir hhelp
  refine ⟨?_, hplain.shell, hplain.output, ?_⟩
  · rw [hmoved.result, hresult, hplain.result]
  · rw [hmoved.shell, hshell, b.text_withFiles]

/-- The same of the line without the directive and with it. -/
theorem execute_runs {front back : String} {background : Bool}
    (h : sh.CanMove b arguments io r files handle (b.text arguments sh))
    (hdir : b ≠ .dir) (hhelp : b ≠ .help)
    (hplain : CommandLine.parse (front ++ back)
      = .ok (some ⟨b.name :: arguments, [], background⟩))
    (hmoved : CommandLine.parse (front ++ r.text ++ back)
      = .ok (some ⟨b.name :: arguments, [r], background⟩)) :
    let said := b.text arguments sh
    let quiet := sh.execute (front ++ back) io.quiet
    let plain := sh.execute (front ++ back) io
    let moved := sh.execute (front ++ r.text ++ back) io
    moved.result = plain.result ∧
    plain.shell = (io.write quiet.shell said).2.2 ∧
    (plain.streams.output = (io.write sh said).2.1.output ∨
      said = [] ∧ plain.streams.output = io.output) ∧
    moved.shell = (Streams.write { io with output := .file handle }
      (quiet.shell.withFiles files) said).2.2 ∧
    moved.streams.output = io.output := by
  intro said quiet plain moved
  obtain ⟨hresult, hshell, hwriter, hfile⟩ := h.runs hdir hhelp
  have hquietLine : quiet = _ := execute_of_builtin hplain sh io.quiet
  have hplainLine : plain = _ := execute_of_builtin hplain sh io
  have hmovedLine : moved = _ := execute_of_builtin_moved hmoved h.output h.opens io
  rw [hplainLine, hmovedLine, hquietLine]
  exact ⟨congrArg (Except.mapError CommandError.classify) hresult, hshell, hwriter, hfile, rfl⟩

/-- Unless it is a device, the file holds what is said, after what it held if that is kept. -/
theorem bytes_after (h : sh.CanMove b arguments io r files handle said) {w : World}
    (hfiles : w.files = files) (hdevice : ∀ kind, files.node? handle.node ≠ some (.device kind)) :
    ((Outlet.file handle).write w said).2.2.files.bytes? handle.node
      = some ((if r.direction = .truncate then []
          else (sh.host.world.files.bytes? handle.node).getD []) ++ said) := by
  obtain ⟨hend, mode, hfile⟩ := Redirection.atEnd_of_openIn h.output h.opens hdevice
  rw [← hfiles] at hfile hend
  rw [Outlet.write_at_end hfile hend, FileSystem.bytes?_setContent hfile, if_pos rfl]

end CanMove

/-- **A directive for standard output** that is put into the line of a built-in command other than
    `dir` and `help`, between two words, before the first or after the last, moves what the command
    says to the file, and changes nothing else. With and without it, whatever the arguments are,

* the line returns the same code, or fails in the same way;
* the session is the same afterwards, and so is the directory of the shell's process;
* standard error output gets the same.

What is said is also the only difference to the line run without any output. Without the directive
the writer has got it. With it, the writer and standard output are as they were, no file but the one
of the directive is different from how opening left it, and that one, unless it is a device, holds
what was said: alone, or after what it held, as the operator asks. -/
theorem execute_moves_output {front back : String} {background : Bool}
    (hplace : words (front ++ back) = words front ++ words back)
    (hread : CommandLine.parse (front ++ back)
      = .ok (some ⟨b.name :: arguments, [], background⟩))
    (hb : b ∈ [Builtin.cd, .clr, .environ, .echo, .pause, .quit, .jobs])
    (htarget : IsWord r.target)
    (h : sh.CanMove b arguments io r files handle (sh.outputOf (front ++ back) io)) :
    let said := sh.outputOf (front ++ back) io
    let quiet := sh.execute (front ++ back) io.quiet
    let plain := sh.execute (front ++ back) io
    let moved := sh.execute (front ++ r.text ++ back) io
    moved.result = plain.result ∧
    moved.shell.session = plain.shell.session ∧
    moved.shell.host.directory = plain.shell.host.directory ∧
    (io.output ≠ .diagnostics → moved.shell.host.world.terminal.errors
      = plain.shell.host.world.terminal.errors) ∧
    plain.shell = (io.write quiet.shell said).2.2 ∧
    (plain.streams.output = (io.write sh said).2.1.output ∨
      said = [] ∧ plain.streams.output = io.output) ∧
    moved.shell = (Streams.write { io with output := .file handle }
      (quiet.shell.withFiles files) said).2.2 ∧
    moved.streams.output = io.output ∧
    moved.shell.host.world.terminal.output = sh.host.world.terminal.output ∧
    (∀ id, id ≠ handle.node → moved.shell.host.world.files.node? id = files.node? id) ∧
    ((∀ kind, files.node? handle.node ≠ some (.device kind)) →
      (r.direction = .truncate →
        moved.shell.host.world.files.bytes? handle.node = some said) ∧
      (r.direction = .append →
        moved.shell.host.world.files.bytes? handle.node
          = some ((sh.host.world.files.bytes? handle.node).getD [] ++ said))) := by
  have hdir : b ≠ .dir := by
    rintro rfl
    exact absurd hb (by decide)
  have hhelp : b ≠ .help := by
    rintro rfl
    exact absurd hb (by decide)
  have hsaid := outputOf_of_builtin hdir hhelp hread sh io
  have hinserted := CommandLine.parse_insert hplace hread htarget
  have hterminal := Builtin.run_quiet_terminal hdir hhelp arguments io sh
  rw [hsaid] at h ⊢
  intro said quiet plain moved
  obtain ⟨hresult, hplain, hwriter, hmoved, hkept⟩ :=
    h.execute_runs hdir hhelp hread hinserted
  have hquiet : quiet.shell.host.world.terminal.output = sh.host.world.terminal.output := by
    rw [← hterminal]
    exact congrArg (·.shell.host.world.terminal.output) (execute_of_builtin hread sh io.quiet)
  have hsame : moved.shell.host.world.terminal = quiet.shell.host.world.terminal := by
    rw [hmoved]
    exact Outlet.write_file_terminal handle (quiet.shell.withFiles files).host.world said
  have hbytes : (∀ kind, files.node? handle.node ≠ some (.device kind)) →
      moved.shell.host.world.files.bytes? handle.node
        = some ((if r.direction = .truncate then []
            else (sh.host.world.files.bytes? handle.node).getD []) ++ said) := by
    intro hdevice
    rw [hmoved]
    exact h.bytes_after rfl hdevice
  -- Both shells are the one left without output, with the same bytes written: what no writing
  -- touches is the same in them.
  refine ⟨hresult, ?_, ?_, fun hdefault => ?_, hplain, hwriter, hmoved, hkept, ?_, fun id hid => ?_,
    fun hdevice => ⟨fun hr => ?_, fun hr => ?_⟩⟩
  · rw [hmoved, hplain]
    rfl
  · rw [hmoved, hplain]
    rfl
  · rw [hsame, hplain]
    exact (Outlet.write_errors hdefault quiet.shell.host.world said).symm
  · rw [hsame, hquiet]
  · rw [hmoved]
    exact Outlet.write_file_node? hid (quiet.shell.withFiles files).host.world said
  · rw [hbytes hdevice, if_pos hr, List.nil_append]
  · rw [hbytes hdevice, if_neg (by rw [hr]; decide)]

end Shell

namespace Sample

/-- The file that is there is opened to be appended to. -/
theorem openIn_append : (⟨.append, "a"⟩ : Redirection).openIn shell.host.mask shell.host.directory
    shell.session.directory files = .ok (files, ⟨3, 0, true⟩) := by
  have hname : shell.session.directory.IsPlainIn (Bytes.ofString "a") := by
    constructor <;> decide
  have hfile : files.node? 3 = some (.file 0o644 (Bytes.ofString "hi")) := rfl
  have hopen : files.openOutput shell.host.mask .root (shell.session.directory.join ⟨_⟩) false
      = .ok (_, 3) := FileSystem.openOutput_existing isDirectoryAt_here hname rfl hfile false
  exact congrArg (·.map fun o => (o.1, (⟨o.2, 0, true⟩ : Handle))) hopen

/-- What `echo hello` says. -/
theorem outputOf_hello : shell.outputOf ("echo" ++ " hello")
    { input := .nothing, output := .memory {} } = Bytes.ofString "hello \n" := by
  have hread : CommandLine.parse ("echo" ++ " hello")
      = .ok (some ⟨[Builtin.echo.name, "hello"], [], false⟩) := by decide +kernel
  exact Shell.outputOf_of_builtin (by decide) (by decide) hread shell _

/-- A word that is put after the first one moves what `echo` says. -/
theorem canMove_echo : shell.CanMove .echo ["hello"] { input := .nothing, output := .memory {} }
    ⟨.append, "a"⟩ files ⟨3, 0, true⟩
    (shell.outputOf ("echo" ++ " hello") { input := .nothing, output := .memory {} }) where
  output := rfl
  opens := openIn_append
  apart := by
    intro target hcd
    cases hcd
  input_there := by
    intro source hsource
    cases hsource
  writer_takes := ⟨rfl, rfl⟩
  file_takes := Outlet.takes_of_atEnd rfl (.inl rfl) _

/-- `echo >> a hello` puts its line after the bytes of the file, and tells its writer nothing. -/
theorem echo_moved :
    words ("echo" ++ " hello") = words "echo" ++ words " hello" ∧
    CommandLine.parse ("echo" ++ " hello")
      = .ok (some ⟨[Builtin.echo.name, "hello"], [], false⟩) ∧
    IsWord "a" ∧
    let moved := shell.execute ("echo" ++ (⟨.append, "a"⟩ : Redirection).text ++ " hello")
      { input := .nothing, output := .memory {} }
    moved.streams.output = .memory {} ∧
    moved.shell.host.world.files.bytes? 3 = some (Bytes.ofString "hihello \n") := by
  have hplace : words ("echo" ++ " hello") = words "echo" ++ words " hello" := by
    decide +kernel
  have hread : CommandLine.parse ("echo" ++ " hello")
      = .ok (some ⟨[Builtin.echo.name, "hello"], [], false⟩) := by decide +kernel
  have hword : IsWord "a" := ⟨by decide, by simp [isDelimiter]⟩
  obtain ⟨-, -, -, -, -, -, -, hwriter, -, -, hbytes⟩ :=
    Shell.execute_moves_output hplace hread (by decide) hword canMove_echo
  have hfile : files.node? 3 = some (.file 0o644 (Bytes.ofString "hi")) := rfl
  have hdevice : ∀ kind, files.node? 3 ≠ some (.device kind) := by
    intro kind hkind
    rw [hfile] at hkind
    cases hkind
  refine ⟨hplace, hread, hword, hwriter, ((hbytes hdevice).2 rfl).trans ?_⟩
  rw [outputOf_hello]
  rfl

end Sample

end CommandShell

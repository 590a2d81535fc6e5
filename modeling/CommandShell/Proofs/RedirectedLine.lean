import CommandShell.Proofs.AnsweringCommands
import CommandShell.Proofs.LineStart

namespace CommandShell

/-!
# RedirectedLine — one line whose directives name targets

* `LineCall`, `Shell.answer` — a line that is run, and what its command writes;
* `Shell.Redirects` — what is asked of a shell and of the lines that are run in it;
* `Shell.Follows` — what a shell keeps while such lines are run;
* `Shell.Ran`, `Shell.Follows.ran` — running one line: its directives open, and its command writes
  its answer to the file of the last one for standard output, or else to the default writer;
* `Shell.Ran.follows`, `Shell.Ran.contents` — what that leaves of the shell and of the targets.
-/

/-- A line that is run: its text, how it is read, and what its command reads from by default. -/
structure LineCall where
  /-- The line as text. -/
  text : String
  /-- The line as read. -/
  line : CommandLine
  /-- It is read like that. -/
  reads : CommandLine.parse text = .ok (some line)
  /-- The default for standard input. -/
  input : Inlet

/-- The name of the built-in command that writes its arguments. -/
def Builtin.echoName : String := Builtin.echo.name

namespace CommandLine

/-- The name of the file that standard output goes to, if it goes to one. -/
def outputName? (line : CommandLine) : Option Bytes :=
  (Redirection.lastOutput? line.redirections).map Redirection.name

/-- The bytes under a name after a line, where `answer` is what its command writes. -/
def contentAfter (line : CommandLine) (answer name : Bytes) (content : Option Bytes) :
    Option Bytes :=
  let opened := line.redirections.foldl (fun content r => r.opened name content) content
  if line.outputName? = some name then some (opened.getD [] ++ answer) else opened

end CommandLine

/-- What the commands of a shell answer, by name and arguments, to what they can read. -/
abbrev Behaviour := String → List String → Except Errno Bytes → Bytes

namespace Shell

/-- What the command of a line can read, once the directives of the line are opened. -/
def readable (sh : Shell) (call : LineCall) : Except Errno Bytes :=
  let (opened, host) := Redirection.openAll sh.session.directory sh.host call.line.redirections
  { sh with host }.ahead ((opened.toOption.getD {}).streams { input := call.input }).input

/-- What the command of a line writes. -/
def answer (sh : Shell) (behaviour : Behaviour) (call : LineCall) : Bytes :=
  match call.line.name? with
  | none => []
  | some name =>
    if name = Builtin.echoName then Bytes.ofString (Builtin.echoLine call.line.arguments)
    else behaviour name call.line.arguments (sh.readable call)

/-- Whether the command of a line is `echo`, or a program that runs as a filter. -/
def Answers (sh : Shell) (here : Location) (written : List NodeId) (behaviour : Behaviour)
    (line : CommandLine) : Prop :=
  line.name? = some Builtin.echoName ∨
    ∃ name path program loaded, line.name? = some name ∧ name ≠ Builtin.echoName ∧
      line.background = false ∧ sh.IsFilter here written name line.arguments
        (behaviour name line.arguments) path program loaded

/-- What a shell keeps while lines are run whose directives name targets. -/
structure Follows (sh₀ : Shell) (here : Location) (targets : List Bytes) (written : List NodeId)
    (sh : Shell) : Prop where
  /-- The session stays. -/
  session : sh.session = sh₀.session
  /-- The programs stay. -/
  programs : sh.host.programs = sh₀.host.programs
  /-- The shell's process stays where it is. -/
  directory : sh.host.directory = sh₀.host.directory
  /-- Of the files only those change that may be written, and new ones are targets. -/
  files : FileSystem.Redirected sh₀.host.directory sh₀.session.directory here targets written
    sh₀.host.world.files sh.host.world.files
  /-- What the shell has written can be passed on. -/
  flushes : sh.host.world.terminal.output.flushFailure = none

/-- A line that can be run in a shell which follows another one. -/
structure Redirects (sh₀ : Shell) (here : Location) (targets : List Bytes) (written : List NodeId)
    (behaviour : Behaviour) (output : Outlet) (call : LineCall) : Prop where
  /-- Its directives name targets. -/
  aimed : ∀ r ∈ call.line.redirections, r.name ∈ targets
  /-- It does not read from the file that it writes to. -/
  apart : ∀ r r', Redirection.lastInput? call.line.redirections = some r →
    Redirection.lastOutput? call.line.redirections = some r' → r.name ≠ r'.name
  /-- Its command answers. -/
  answers : sh₀.Answers here written behaviour call.line
  /-- What it reads by default is no file that is written. -/
  input_apart : ∀ handle, call.input = .file handle →
    sh₀.host.world.files.node? handle.node ≠ none ∧ handle.node ∉ written
  /-- What it writes to by default is no target. -/
  output_apart : ∀ id, output.openNode? = some id → id ∈ written ∧
    sh₀.host.world.files.node? id ≠ none ∧
      ∀ name ∈ targets, sh₀.host.world.files.named? here.node name ≠ some id

/-- The outlet of a command: the file of the last directive for standard output, or the default. -/
def outletOf (opened : OpenedFiles) (output : Outlet) : Outlet :=
  (opened.output.map Outlet.file).getD output

/-- What running a line comes to: its directives open and leave `files`, and its command writes
    `answer` to an outlet. A program gets the default writer as a child does, and its caller's stays
    as it is. -/
structure Ran (sh : Shell) (here : Location) (targets : List Bytes) (call : LineCall)
    (output : Outlet) (answer : Bytes) (files : FileSystem) (opened : OpenedFiles)
    (outlet : Outlet) : Prop where
  /-- The directives open. -/
  opens : FileSystem.OpensTargets sh.host.mask sh.host.directory sh.session.directory here targets
    sh.host.world.files call.line.redirections files opened
  /-- The command writes its answer. -/
  wrote : (sh.execute call.text ⟨call.input, output⟩).Wrote (sh.withFiles files) outlet answer
  /-- It writes to its outlet. -/
  outlet_eq : outlet = outletOf opened output ∨ outlet = (outletOf opened output).forChild
  /-- The default writer gets the answer of `echo`. -/
  of_echo : call.line.name? = some Builtin.echoName → opened.output = none →
    outlet = output ∧ (sh.execute call.text ⟨call.input, output⟩).streams.output
      = (output.write (sh.withFiles files).host.world answer).2.1
  /-- Programs get it as their own. -/
  of_program : call.line.name? ≠ some Builtin.echoName → opened.output = none →
    outlet = output.forChild ∧
      (sh.execute call.text ⟨call.input, output⟩).streams.output = output
  /-- It stays as it is where a file stands in. -/
  of_file : opened.output ≠ none →
    (sh.execute call.text ⟨call.input, output⟩).streams.output = output

variable {sh₀ sh : Shell} {here : Location} {targets : List Bytes} {written : List NodeId}
  {behaviour : Behaviour} {default output : Outlet} {call : LineCall} {files : FileSystem}
  {opened : OpenedFiles} {outlet : Outlet} {answer : Bytes}

/-! ### Running the command -/

/-- What the command of a line can read is what it reads once the directives are opened. -/
theorem readable_of_opens (h : sh.Opens call.line.redirections files opened) (output : Outlet) :
    sh.readable call
      = (sh.withFiles files).ahead (opened.streams { input := call.input, output }).input := by
  unfold readable
  rw [Redirection.openAll_of_opens h]
  rfl

/-- A program answers as it behaves. -/
theorem answer_of_name {name : String} (h : call.line.name? = some name)
    (hne : name ≠ Builtin.echoName) :
    sh.answer behaviour call = behaviour name call.line.arguments (sh.readable call) := by
  unfold answer
  rw [h]
  exact if_neg hne

/-- `echo` answers its arguments. -/
theorem answer_of_echo (h : call.line.name? = some Builtin.echoName) :
    sh.answer behaviour call = Bytes.ofString (Builtin.echoLine call.line.arguments) := by
  unfold answer
  rw [h]
  exact if_pos rfl

/-- A line is run like its command, once its directives are opened. -/
theorem execute_of_opens {name : String} (h : sh.Opens call.line.redirections files opened)
    (hname : call.line.name? = some name) (io : Streams) :
    (sh.execute call.text io).shell = ((sh.withFiles files).invoke name call.line.arguments
        call.line.background (opened.streams io)).shell ∧
      (sh.execute call.text io).streams = opened.restore io ((sh.withFiles files).invoke name
        call.line.arguments call.line.background (opened.streams io)).streams := by
  rw [execute_of_parse call.reads, executeParsed_of_opens h, hname]
  exact ⟨rfl, rfl⟩

/-- The file that the command of a line has in place of standard input is not the one that it has in
    place of standard output. -/
theorem Redirects.child_apart (hr : sh₀.Redirects here targets written behaviour default call)
    (hdefault : output.openNode? = default.openNode?)
    (hopens : FileSystem.OpensTargets sh.host.mask sh.host.directory sh.session.directory here
      targets sh.host.world.files call.line.redirections files opened)
    (hafter : FileSystem.Redirected sh₀.host.directory sh₀.session.directory here targets written
      sh₀.host.world.files files) (loaded : List Bytes) :
    ((sh.withFiles files).child here loaded
      (opened.streams { input := call.input, output })).Apart := by
  intro input' output' hinput houtput hsame
  -- What is read from is the file of the last directive, or the default; so is what is written to.
  have hread : (∃ r ∈ call.line.redirections,
        Redirection.lastInput? call.line.redirections = some r ∧
          files.named? here.node r.name = some input'.node) ∨ call.input = .file input' := by
    have hforChild := Inlet.eq_file_of_forChild hinput
    rcases hopened : opened.input with _ | handle
    · right
      simpa [OpenedFiles.streams, hopened] using hforChild
    · left
      have hhandle : handle = input' := by simpa [OpenedFiles.streams, hopened] using hforChild
      exact hhandle ▸ hopens.exists_lastInput? hopened
  have hwritten : (∃ r ∈ call.line.redirections,
        Redirection.lastOutput? call.line.redirections = some r ∧
          files.named? here.node r.name = some output'.node ∧ output'.AtEnd files) ∨
      default.openNode? = some output'.node := by
    have hforChild := Outlet.eq_file_of_forChild houtput
    rcases hopened : opened.output with _ | handle
    · right
      have hfile : output = .file output' := by simpa [OpenedFiles.streams, hopened] using hforChild
      rw [← hdefault, hfile]
      rfl
    · left
      have hhandle : handle = output' := by simpa [OpenedFiles.streams, hopened] using hforChild
      exact hhandle ▸ hopens.exists_lastOutput? hopened
  rcases hread with ⟨r, hmem, hlast, hnamed⟩ | hdirect
  · rcases hwritten with ⟨r', hmem', hlast', hnamed', -⟩ | hopen
    · rw [← hsame] at hnamed'
      exact hr.apart r r' hlast hlast'
        (hafter.has.distinct _ (hr.aimed r hmem) _ (hr.aimed r' hmem') _ hnamed hnamed')
    · obtain ⟨-, hthere, hother⟩ := hr.output_apart _ hopen
      rw [← hsame] at hthere hother
      rcases hafter.origin r.name _ hnamed with hold | ⟨-, hnew⟩
      · exact hother _ (hr.aimed r hmem) hold
      · exact hthere hnew
  · obtain ⟨hthere, hnot⟩ := hr.input_apart input' hdirect
    rw [hsame] at hthere hnot
    rcases hwritten with ⟨r', hmem', -, hnamed', -⟩ | hopen
    · rcases hafter.writable (hr.aimed r' hmem') hnamed' with hin | hnew
      · exact hnot hin
      · exact hthere hnew
    · exact hnot (hr.output_apart _ hopen).1

/-- The files that a command may have open for writing. -/
theorem Redirects.may_be_open (hr : sh₀.Redirects here targets written behaviour default call)
    (hdefault : output.openNode? = default.openNode?)
    (hopens : FileSystem.OpensTargets sh.host.mask sh.host.directory sh.session.directory here
      targets sh.host.world.files call.line.redirections files opened)
    (hafter : FileSystem.Redirected sh₀.host.directory sh₀.session.directory here targets written
      sh₀.host.world.files files) {id : NodeId}
    (hid : (outletOf opened output).openNode? = some id) :
    id ∈ written ∨ sh₀.host.world.files.node? id = none := by
  unfold outletOf at hid
  rcases hopened : opened.output with _ | handle
  · rw [hopened] at hid
    exact .inl (hr.output_apart id (hdefault ▸ hid)).1
  · rw [hopened] at hid
    cases hid
    obtain ⟨r, hmem, -, hnamed, -⟩ := hopens.exists_lastOutput? hopened
    exact hafter.writable (hr.aimed r hmem) hnamed

/-- Opening the directives of a line keeps what a shell keeps. -/
theorem Follows.withFiles (h : sh₀.Follows here targets written sh)
    (hafter : FileSystem.Redirected sh₀.host.directory sh₀.session.directory here targets written
      sh₀.host.world.files files) : sh₀.Follows here targets written (sh.withFiles files) where
  session := h.session
  programs := h.programs
  directory := h.directory
  files := hafter
  flushes := h.flushes

/-- Outlets stay as they are where a file stands in. -/
theorem restore_output_of_file {before after : Streams} (h : opened.output ≠ none) :
    (opened.restore before after).output = before.output := by
  unfold OpenedFiles.restore
  rw [if_pos (Option.isSome_iff_ne_none.2 h)]

theorem restore_output_of_none {before after : Streams} (h : opened.output = none) :
    (opened.restore before after).output = after.output := by
  unfold OpenedFiles.restore
  rw [h]
  rfl

theorem outletOf_of_none (h : opened.output = none) : outletOf opened output = output := by
  rw [outletOf, h]
  rfl

/-- `echo` runs on a line. -/
theorem ran_of_echo (hecho : call.line.name? = some Builtin.echoName)
    (hopens : FileSystem.OpensTargets sh.host.mask sh.host.directory sh.session.directory here
      targets sh.host.world.files call.line.redirections files opened) :
    sh.Ran here targets call output (sh.answer behaviour call) files opened
      (outletOf opened output) := by
  obtain ⟨hshell, hstreams⟩ := execute_of_opens hopens.opens hecho { input := call.input, output }
  have hname : Builtin.ofName? Builtin.echoName = some .echo := by decide
  unfold invoke at hshell hstreams
  rw [hname] at hshell hstreams
  obtain ⟨hwrote, hrun⟩ := Builtin.run_echo call.line.arguments
    (opened.streams { input := call.input, output }) (sh.withFiles files)
  rw [answer_of_echo hecho]
  refine ⟨hopens, hwrote.of_shell hshell, .inl rfl, fun _ hnone => ⟨outletOf_of_none hnone, ?_⟩,
    fun hother => absurd hecho hother, fun hsome => ?_⟩
  · have houtput : (opened.streams { input := call.input, output }).output = output :=
      outletOf_of_none hnone
    rw [hstreams, restore_output_of_none hnone, hrun, houtput]
  · rw [hstreams, restore_output_of_file hsome]

/-- A filter runs on a line. -/
theorem Redirects.ran_of_filter (hr : sh₀.Redirects here targets written behaviour default call)
    (hdefault : output.openNode? = default.openNode?)
    (hopens : FileSystem.OpensTargets sh.host.mask sh.host.directory sh.session.directory here
      targets sh.host.world.files call.line.redirections files opened)
    (hafter : sh₀.Follows here targets written (sh.withFiles files)) {name : String} {path : Path}
    {program : Program} {loaded : List Bytes} (hname : call.line.name? = some name)
    (hne : name ≠ Builtin.echoName) (hforeground : call.line.background = false)
    (hfilter : sh₀.IsFilter here written name call.line.arguments
      (behaviour name call.line.arguments) path program loaded) :
    sh.Ran here targets call output (sh.answer behaviour call) files opened
      (outletOf opened output).forChild := by
  obtain ⟨hshell, hstreams⟩ := execute_of_opens hopens.opens hname { input := call.input, output }
  obtain ⟨entries, hat⟩ := hafter.files.has.leads
  have hlocate := hat.located.2
  have hhere : (sh.withFiles files).host.world.files.isDirectory here.node = true := by
    rw [FileSystem.isDirectory, FileSystem.entries?_here hat]
    rfl
  rw [← hafter.directory, ← hafter.session] at hlocate
  obtain ⟨hwrote, hrun⟩ := hfilter.run hafter.session hafter.programs hafter.directory
    (hafter.session ▸ hat.absolute) hafter.files.grown hlocate hhere hafter.flushes
    (fun id hid => hr.may_be_open hdefault hopens hafter.files hid)
    (hr.child_apart hdefault hopens hafter.files loaded)
  rw [hforeground] at hshell hstreams
  rw [answer_of_name hname hne, readable_of_opens hopens.opens output]
  refine ⟨hopens, hwrote.of_shell hshell, .inr rfl, fun hecho => ?_,
    fun _ hnone => ⟨by rw [outletOf_of_none hnone], ?_⟩, fun hsome => ?_⟩
  · rw [hname] at hecho
    exact absurd (Option.some.inj hecho) hne
  · rw [hstreams, restore_output_of_none hnone, hrun]
    exact outletOf_of_none hnone
  · rw [hstreams, restore_output_of_file hsome]

/-- **Running a line.** Its directives open, and its command writes its answer. -/
theorem Follows.ran (h : sh₀.Follows here targets written sh)
    (hr : sh₀.Redirects here targets written behaviour default call)
    (hdefault : output.openNode? = default.openNode?)
    (hinputs : FileSystem.FindsInputs
      (fun name => sh.host.world.files.named? here.node name ≠ none) call.line.redirections) :
    ∃ files opened outlet,
      sh.Ran here targets call output (sh.answer behaviour call) files opened outlet ∧
        sh₀.Follows here targets written (sh.withFiles files) := by
  obtain ⟨files, opened, hopens, hafter⟩ :=
    h.files.opensTargets call.line.redirections hr.aimed hinputs
  rw [← h.directory, ← h.session] at hopens
  have hfollows := h.withFiles hafter
  rcases hr.answers with hecho | ⟨name, path, program, loaded, hname, hne, hforeground, hfilter⟩
  · exact ⟨files, opened, _, ran_of_echo hecho hopens, hfollows⟩
  · exact ⟨files, opened, _,
      hr.ran_of_filter hdefault hopens hfollows hname hne hforeground hfilter, hfollows⟩

end Shell

/-! ### What a command leaves that wrote bytes -/

namespace Outcome.Wrote

variable {ε : Type} {o : Outcome ε} {sh₀ sh : Shell} {here : Location} {targets : List Bytes}
  {written : List NodeId} {outlet : Outlet} {bytes name : Bytes}

/-- A shell keeps what it keeps if the file written to is one that may be written. -/
theorem follows (h : o.Wrote sh outlet bytes) (hf : sh₀.Follows here targets written sh)
    (hopen : ∀ id, outlet.openNode? = some id →
      id ∈ written ∨ sh₀.host.world.files.node? id = none) :
    sh₀.Follows here targets written o.shell where
  session := h.session.trans hf.session
  programs := h.programs.trans hf.programs
  directory := h.directory.trans hf.directory
  files := by
    rw [h.files]
    rcases outlet.write_files sh.host.world bytes with
      hsame | ⟨id, mode, content, content', hid, hfile, hset⟩
    · rw [hsame]
      exact hf.files
    · rw [hset]
      exact hf.files.setContent hfile (hopen id hid) content'
  flushes := by
    rw [h.output, Outlet.write_flushFailure]
    exact hf.flushes

/-- Writing makes no names. -/
theorem named?_eq (h : o.Wrote sh outlet bytes) (hf : sh₀.Follows here targets written sh)
    (name : Bytes) :
    o.shell.host.world.files.named? here.node name
      = sh.host.world.files.named? here.node name := by
  obtain ⟨entries, hat⟩ := hf.files.has.leads
  rw [h.files]
  rcases outlet.write_files sh.host.world bytes with
    hsame | ⟨id, mode, content, content', -, hfile, hset⟩
  · rw [hsame]
  · rw [hset, FileSystem.named?_setContent hat.holds hfile]

/-- A file that is not written to keeps its bytes. -/
theorem fileIn?_other (h : o.Wrote sh outlet bytes) (hf : sh₀.Follows here targets written sh)
    (hother : ∀ id, outlet.openNode? = some id →
      sh.host.world.files.named? here.node name ≠ some id) :
    o.shell.host.world.files.fileIn? here.node name
      = sh.host.world.files.fileIn? here.node name := by
  obtain ⟨entries, hat⟩ := hf.files.has.leads
  rw [h.files]
  rcases outlet.write_files sh.host.world bytes with
    hsame | ⟨id, mode, content, content', hid, hfile, hset⟩
  · rw [hsame]
  · rw [hset, FileSystem.fileIn?_setContent hat.holds hfile, if_neg (hother id hid)]

/-- A file that is written to at its end has the bytes after those that it had. -/
theorem fileIn?_target {handle : Handle} (h : o.Wrote sh (.file handle) bytes)
    (hf : sh₀.Follows here targets written sh) (hname : name ∈ targets)
    (hnamed : sh.host.world.files.named? here.node name = some handle.node)
    (hend : handle.AtEnd sh.host.world.files) {name' : Bytes} (hname' : name' ∈ targets) :
    o.shell.host.world.files.fileIn? here.node name'
      = if name = name'
        then some ((sh.host.world.files.fileIn? here.node name').getD [] ++ bytes)
        else sh.host.world.files.fileIn? here.node name' := by
  obtain ⟨entries, hat⟩ := hf.files.has.leads
  obtain ⟨mode, content, hfile⟩ := hf.files.has.regular name hname _ hnamed
  rw [h.files, Outlet.write_at_end hfile hend, FileSystem.fileIn?_setContent hat.holds hfile]
  by_cases hsame : name = name'
  · have hcontent : sh.host.world.files.fileIn? here.node name = some content := by
      rw [FileSystem.fileIn?, hnamed, Option.bind_some, FileSystem.bytes?_of_file hfile]
    subst hsame
    rw [if_pos hnamed, if_pos rfl, hcontent, Option.getD_some]
  · have hother : sh.host.world.files.named? here.node name' ≠ some handle.node :=
      fun hnamed' => hsame (hf.files.has.distinct name hname name' hname' _ hnamed hnamed')
    rw [if_neg hother, if_neg hsame]

end Outcome.Wrote

/-! ### What a line leaves -/

namespace Shell.Ran

variable {sh₀ sh : Shell} {here : Location} {targets : List Bytes} {written : List NodeId}
  {behaviour : Behaviour} {default output : Outlet} {call : LineCall} {files : FileSystem}
  {opened : OpenedFiles} {outlet : Outlet} {answer : Bytes}

/-- The file that the command has open for writing. -/
theorem openNode?_eq (h : sh.Ran here targets call output answer files opened outlet) :
    outlet.openNode? = (outletOf opened output).openNode? := by
  rcases h.outlet_eq with houtlet | houtlet
  · rw [houtlet]
  · rw [houtlet, Outlet.forChild_openNode?]

/-- It is that of the last directive for standard output, if there is one. -/
theorem outlet_of_some (h : sh.Ran here targets call output answer files opened outlet)
    {handle : Handle} (hopened : opened.output = some handle) : outlet = .file handle := by
  have hfile : outletOf opened output = .file handle := by
    rw [outletOf, hopened]
    rfl
  rcases h.outlet_eq with houtlet | houtlet <;> rw [houtlet, hfile]
  rfl

/-- The default writer keeps open the file that it had open. -/
theorem default_openNode? (h : sh.Ran here targets call output answer files opened outlet) :
    (sh.execute call.text ⟨call.input, output⟩).streams.output.openNode? = output.openNode? := by
  by_cases hopened : opened.output = none
  · by_cases hecho : call.line.name? = some Builtin.echoName
    · rw [(h.of_echo hecho hopened).2, Outlet.write_openNode?]
    · rw [(h.of_program hecho hopened).2]
  · rw [h.of_file hopened]

/-- The shell keeps what it keeps. -/
theorem follows (h : sh.Ran here targets call output answer files opened outlet)
    (hf : sh₀.Follows here targets written (sh.withFiles files))
    (hr : sh₀.Redirects here targets written behaviour default call)
    (hdefault : output.openNode? = default.openNode?) :
    sh₀.Follows here targets written (sh.execute call.text ⟨call.input, output⟩).shell :=
  h.wrote.follows hf fun _ hid =>
    hr.may_be_open hdefault h.opens hf.files (h.openNode?_eq ▸ hid)

/-- **The targets after a line**: each is as the directives leave it, and the last one for standard
    output has the answer at its end. -/
theorem contents (h : sh.Ran here targets call output answer files opened outlet)
    (hf : sh₀.Follows here targets written (sh.withFiles files))
    (hr : sh₀.Redirects here targets written behaviour default call)
    (hdefault : output.openNode? = default.openNode?) {name : Bytes} (hname : name ∈ targets) :
    (sh.execute call.text ⟨call.input, output⟩).shell.host.world.files.fileIn? here.node name
      = call.line.contentAfter answer name (sh.host.world.files.fileIn? here.node name) := by
  unfold CommandLine.contentAfter CommandLine.outputName?
  simp only
  rw [← h.opens.contents name hname]
  rcases hopened : opened.output with _ | handle
  · rw [h.opens.output_eq_none_iff.1 hopened, Option.map_none, if_neg (Option.some_ne_none _).symm]
    refine h.wrote.fileIn?_other hf fun id hid hnamed => ?_
    rw [h.openNode?_eq, outletOf_of_none hopened, hdefault] at hid
    obtain ⟨-, hthere, hother⟩ := hr.output_apart id hid
    rcases hf.files.origin name id hnamed with hold | ⟨-, hnew⟩
    · exact hother name hname hold
    · exact hthere hnew
  · obtain ⟨r, hmem, hlast, hnamed, hend⟩ := h.opens.exists_lastOutput? hopened
    have hwrote := h.wrote
    rw [h.outlet_of_some hopened] at hwrote
    rw [hwrote.fileIn?_target hf (hr.aimed r hmem) hnamed hend hname, hlast, Option.map_some]
    simp only [Option.some.injEq]
    rfl

/-- Standard output goes to no file exactly if no directive says so. -/
theorem outputName?_eq_none_iff
    (h : sh.Ran here targets call output answer files opened outlet) :
    call.line.outputName? = none ↔ opened.output = none := by
  rw [h.opens.output_eq_none_iff, CommandLine.outputName?, Option.map_eq_none_iff]

/-- **A default writer in the memory of the shell** gets the answer of `echo`, unless that goes to a
    file. -/
theorem memory {capture : Capture}
    (h : sh.Ran here targets call (.memory capture) answer files opened outlet)
    (hroom : capture.room = none) :
    (sh.execute call.text ⟨call.input, .memory capture⟩).streams.output
      = .memory (capture.add
          (if call.line.name? = some Builtin.echoName ∧ call.line.outputName? = none then answer
            else [])) := by
  by_cases hname : call.line.outputName? = none
  · have hopened := h.outputName?_eq_none_iff.1 hname
    by_cases hecho : call.line.name? = some Builtin.echoName
    · rw [(h.of_echo hecho hopened).2, if_pos ⟨hecho, hname⟩]
      show Outlet.memory (capture.put answer).2 = _
      rw [Capture.put_of_room hroom]
    · rw [(h.of_program hecho hopened).2, if_neg fun hboth => hecho hboth.1,
        Capture.add_nil]
  · have hopened := mt h.outputName?_eq_none_iff.2 hname
    rw [h.of_file hopened, if_neg fun hboth => hname hboth.2, Capture.add_nil]

/-- **The standard output of the shell's process** gets what a command writes, unless that goes to a
    file. -/
theorem terminal (h : sh.Ran here targets call .terminal answer files opened outlet) :
    (sh.execute call.text ⟨call.input, .terminal⟩).streams.output = .terminal ∧
      (sh.host.world.terminal.output.room = none →
        (sh.execute call.text ⟨call.input, .terminal⟩).shell.host.world.terminal.output
          = sh.host.world.terminal.output.add
              (if call.line.outputName? = none then answer else [])) := by
  by_cases hname : call.line.outputName? = none
  · have hopened := h.outputName?_eq_none_iff.1 hname
    have hboth : outlet = .terminal ∧
        (sh.execute call.text ⟨call.input, .terminal⟩).streams.output = .terminal := by
      by_cases hecho : call.line.name? = some Builtin.echoName
      · exact h.of_echo hecho hopened
      · exact h.of_program hecho hopened
    refine ⟨hboth.2, fun hroom => ?_⟩
    rw [h.wrote.output, hboth.1, if_pos hname]
    show (sh.host.world.terminal.output.put answer).2 = _
    rw [Capture.put_of_room hroom]
  · have hopened := mt h.outputName?_eq_none_iff.2 hname
    obtain ⟨handle, hhandle⟩ := Option.ne_none_iff_exists'.1 hopened
    refine ⟨h.of_file hopened, fun _ => ?_⟩
    rw [h.wrote.output, h.outlet_of_some hhandle, Outlet.write_file_terminal, if_neg hname,
      Capture.add_nil]
    rfl

end Shell.Ran

end CommandShell

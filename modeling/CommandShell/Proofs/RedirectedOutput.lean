import CommandShell.Proofs.CanonicalPaths
import CommandShell.Proofs.RedirectedLine

namespace CommandShell

/-!
# RedirectedOutput — what files hold after lines that redirect their output

Every directive of a line opens its file, and perhaps empties it, but only the last one for standard
output gets what the command writes. Over a whole run of lines this comes to a simple law: a file
holds the bytes it had, or none if it was emptied, and then what the lines wrote to it since.

* `CommandLine.contentAfter_of_truncates`, `CommandLine.contentAfter_of_not_truncates` — the bytes
  under a name after one line;
* `contentsAfter_of_truncates`, `contentsAfter_of_not_truncates` — the same for a list of lines;
* `Shell.executeAll`, `Shell.runsOf` — running lines one after the other, and what they write;
* `Shell.CanRedirect` — what is asked of a shell and the lines to be run in it;
* `Shell.RanAll`, `Shell.CanRedirect.ranAll` — the lines run, each as it does on its own;
* `Shell.executeAll_redirected` — the law.
-/

/-- A line that was run, and what its command wrote. -/
abbrev LineRun := CommandLine × Bytes

namespace CommandLine

/-- Whether a line has a directive that empties the file of a name. -/
def Truncates (line : CommandLine) (name : Bytes) : Prop :=
  ∃ r ∈ line.redirections, r.direction = .truncate ∧ r.name = name

/-- Whether a line has a directive that makes the file of a name. -/
def Makes (line : CommandLine) (name : Bytes) : Prop :=
  ∃ r ∈ line.redirections, r.isOutput = true ∧ r.name = name

end CommandLine

/-! ### One line -/

namespace Redirection

variable {rs : List Redirection} {name : Bytes} {content : Option Bytes}

/-- Directives for other files leave a file as it is. -/
theorem foldl_opened_of_not_makes (h : ∀ r ∈ rs, ¬ (r.isOutput = true ∧ r.name = name)) :
    rs.foldl (fun content r => r.opened name content) content = content := by
  induction rs generalizing content with
  | nil => rfl
  | cons r rest ih =>
    have hr : r.opened name content = content := by
      by_cases houtput : r.isOutput = true
      · have hname : name ≠ r.name := fun hname => h r List.mem_cons_self ⟨houtput, hname.symm⟩
        rw [opened_output houtput, if_neg hname]
      · rw [opened_input (Bool.eq_false_iff.2 houtput)]
    rw [List.foldl_cons, hr, ih fun r' hr' => h r' (List.mem_cons_of_mem _ hr')]

/-- Directives that do not empty a file leave its bytes, and it is there if it was there or one of
    them made it. -/
theorem foldl_opened_of_not_truncates
    (h : ∀ r ∈ rs, ¬ (r.direction = .truncate ∧ r.name = name))
    (hthere : content ≠ none ∨ ∃ r ∈ rs, r.isOutput = true ∧ r.name = name) :
    rs.foldl (fun content r => r.opened name content) content = some (content.getD []) := by
  induction rs generalizing content with
  | nil =>
    rcases hthere with hthere | ⟨r, hr, -⟩
    · obtain ⟨bytes, rfl⟩ := Option.ne_none_iff_exists'.1 hthere
      rfl
    · cases hr
  | cons r rest ih =>
    have hrest : ∀ r' ∈ rest, ¬ (r'.direction = .truncate ∧ r'.name = name) :=
      fun r' hr' => h r' (List.mem_cons_of_mem _ hr')
    rw [List.foldl_cons]
    by_cases hr : r.isOutput = true ∧ r.name = name
    · have hkeeps : r.direction ≠ .truncate :=
        fun htruncate => h r List.mem_cons_self ⟨htruncate, hr.2⟩
      rw [opened_output hr.1, if_pos hr.2.symm, if_neg hkeeps,
        ih hrest (.inl (Option.some_ne_none _)), Option.getD_some]
    · have hsame : r.opened name content = content := by
        have hone : ∀ r' ∈ [r], ¬ (r'.isOutput = true ∧ r'.name = name) := by
          intro r' hr'
          rwa [List.mem_singleton.1 hr']
        exact foldl_opened_of_not_makes hone
      rw [hsame]
      refine ih hrest ?_
      rcases hthere with hthere | ⟨r', hr', hmakes⟩
      · exact .inl hthere
      · rcases List.mem_cons.1 hr' with rfl | hr'
        · exact absurd hmakes hr
        · exact .inr ⟨r', hr', hmakes⟩

/-- Directives that empty a file leave no bytes in it. -/
theorem foldl_opened_of_truncates
    (h : ∃ r ∈ rs, r.direction = .truncate ∧ r.name = name) :
    rs.foldl (fun content r => r.opened name content) content = some [] := by
  -- Once a file is empty, no directive puts bytes into it.
  have hempty : ∀ rest : List Redirection,
      rest.foldl (fun content r => r.opened name content) (some []) = some [] := by
    intro rest
    induction rest with
    | nil => rfl
    | cons r rest ih =>
      have hr : r.opened name (some []) = some [] := by
        unfold opened
        split_ifs
        · split <;> rfl
        · rfl
      rw [List.foldl_cons, hr, ih]
  obtain ⟨r, hr, htruncate, hname⟩ := h
  obtain ⟨before, rest, rfl⟩ := List.append_of_mem hr
  have hopened : ∀ content, r.opened name content = some [] := by
    intro content
    rw [opened, if_pos hname.symm, htruncate]
  rw [List.foldl_append, List.foldl_cons, hopened, hempty]

end Redirection

namespace CommandLine

variable {line : CommandLine} {answer name : Bytes} {content : Option Bytes}

/-- A line writes to a file that it makes. -/
theorem makes_of_outputName? (h : line.outputName? = some name) : line.Makes name := by
  obtain ⟨r, hlast, hname⟩ := Option.map_eq_some_iff.1 h
  obtain ⟨hr, houtput⟩ := List.mem_filter.1 (List.mem_of_getLast? hlast)
  exact ⟨r, hr, houtput, hname⟩

/-- A line that does not name a file for its output leaves it. -/
theorem contentAfter_of_not_makes (h : ¬ line.Makes name) :
    line.contentAfter answer name content = content := by
  unfold contentAfter
  have hother : ∀ r ∈ line.redirections, ¬ (r.isOutput = true ∧ r.name = name) :=
    fun r hr hmakes => h ⟨r, hr, hmakes⟩
  simp only
  rw [if_neg fun hname => h (makes_of_outputName? hname),
    Redirection.foldl_opened_of_not_makes hother]

/-- A line that empties no file of the name puts its answer after the bytes that were there. -/
theorem contentAfter_of_not_truncates (h : ¬ line.Truncates name)
    (hthere : content ≠ none ∨ line.Makes name) :
    line.contentAfter answer name content
      = some (content.getD [] ++ if line.outputName? = some name then answer else []) := by
  unfold contentAfter
  have hkeeps : ∀ r ∈ line.redirections, ¬ (r.direction = .truncate ∧ r.name = name) :=
    fun r hr htruncates => h ⟨r, hr, htruncates⟩
  simp only
  rw [Redirection.foldl_opened_of_not_truncates hkeeps hthere]
  by_cases hname : line.outputName? = some name
  · rw [if_pos hname, if_pos hname, Option.getD_some]
  · rw [if_neg hname, if_neg hname, List.append_nil]

/-- A line that empties a file leaves its answer in it, or nothing. -/
theorem contentAfter_of_truncates (h : line.Truncates name) :
    line.contentAfter answer name content
      = some (if line.outputName? = some name then answer else []) := by
  unfold contentAfter
  simp only
  rw [Redirection.foldl_opened_of_truncates h]
  by_cases hname : line.outputName? = some name
  · rw [if_pos hname, if_pos hname, Option.getD_some, List.nil_append]
  · rw [if_neg hname, if_neg hname]

end CommandLine

/-! ### A list of lines -/

/-- The bytes under a name after lines were run. -/
def contentsAfter (runs : List LineRun) (name : Bytes) (content : Option Bytes) : Option Bytes :=
  runs.foldl (fun content run => run.1.contentAfter run.2 name content) content

/-- What lines wrote to a file in place of their standard output, or, without a name, to standard
    output itself. -/
def sentTo (name? : Option Bytes) (runs : List LineRun) : Bytes :=
  (runs.filter fun run => run.1.outputName? = name?).flatMap (·.2)

theorem sentTo_cons (name? : Option Bytes) (run : LineRun) (rest : List LineRun) :
    sentTo name? (run :: rest)
      = (if run.1.outputName? = name? then run.2 else []) ++ sentTo name? rest := by
  unfold sentTo
  by_cases hname : run.1.outputName? = name? <;> simp [hname]

/-- As long as no line empties a file, what is written to it adds up. -/
theorem contentsAfter_of_not_truncates {runs : List LineRun} {name : Bytes}
    {content : Option Bytes} (h : ∀ run ∈ runs, ¬ run.1.Truncates name)
    (hthere : content ≠ none ∨ ∃ run ∈ runs, run.1.Makes name) :
    contentsAfter runs name content = some (content.getD [] ++ sentTo (some name) runs) := by
  induction runs generalizing content with
  | nil =>
    rcases hthere with hthere | ⟨run, hrun, -⟩
    · obtain ⟨bytes, rfl⟩ := Option.ne_none_iff_exists'.1 hthere
      show some bytes = some (bytes ++ [])
      rw [List.append_nil]
    · cases hrun
  | cons run rest ih =>
    have hrest : ∀ run' ∈ rest, ¬ run'.1.Truncates name :=
      fun run' hrun' => h run' (List.mem_cons_of_mem _ hrun')
    have hstep : contentsAfter (run :: rest) name content
        = contentsAfter rest name (run.1.contentAfter run.2 name content) := rfl
    rw [hstep, sentTo_cons]
    by_cases hmakes : content ≠ none ∨ run.1.Makes name
    · rw [CommandLine.contentAfter_of_not_truncates (h run List.mem_cons_self) hmakes,
        ih hrest (.inl (Option.some_ne_none _)), Option.getD_some, List.append_assoc]
    · obtain ⟨hnone, hnot⟩ := not_or.1 hmakes
      have hlater : ∃ run' ∈ rest, run'.1.Makes name := by
        rcases hthere with hthere | ⟨run', hrun', hmakes'⟩
        · exact absurd hthere hnone
        · rcases List.mem_cons.1 hrun' with rfl | hrun'
          · exact absurd hmakes' hnot
          · exact ⟨run', hrun', hmakes'⟩
      rw [CommandLine.contentAfter_of_not_makes hnot, ih hrest (.inr hlater),
        if_neg fun hname => hnot (CommandLine.makes_of_outputName? hname), List.nil_append]

/-- What a file held before a line that empties it is of no consequence. -/
theorem contentsAfter_of_truncates {before rest : List LineRun} {last : LineRun} {name : Bytes}
    (hlast : last.1.Truncates name) (hrest : ∀ run ∈ rest, ¬ run.1.Truncates name)
    (content : Option Bytes) :
    contentsAfter (before ++ last :: rest) name content
      = some (sentTo (some name) (last :: rest)) := by
  have hstep : contentsAfter (before ++ last :: rest) name content
      = contentsAfter rest name (last.1.contentAfter last.2 name
          (contentsAfter before name content)) := by
    unfold contentsAfter
    rw [List.foldl_append, List.foldl_cons]
  rw [hstep, CommandLine.contentAfter_of_truncates hlast,
    contentsAfter_of_not_truncates hrest (.inl (Option.some_ne_none _)), Option.getD_some,
    sentTo_cons]

/-! ### Running lines -/

namespace Shell

/-- Runs lines one after the other, each with its own default for standard input, and with the
    default writer as the line before left it. -/
def executeAll (sh : Shell) (output : Outlet) : List LineCall → Shell × Outlet
  | [] => (sh, output)
  | call :: rest =>
    let o := sh.execute call.text { input := call.input, output }
    o.shell.executeAll o.streams.output rest

/-- The lines with what their commands write when they are run one after the other. -/
def runsOf (sh : Shell) (behaviour : Behaviour) (output : Outlet) : List LineCall → List LineRun
  | [] => []
  | call :: rest =>
    let o := sh.execute call.text { input := call.input, output }
    (call.line, sh.answer behaviour call) :: o.shell.runsOf behaviour o.streams.output rest

/-- The lines that were run are the lines. -/
theorem map_fst_runsOf (sh : Shell) (behaviour : Behaviour) (output : Outlet)
    (calls : List LineCall) :
    (sh.runsOf behaviour output calls).map (·.1) = calls.map (·.line) := by
  induction calls generalizing sh output with
  | nil => rfl
  | cons call rest ih => rw [runsOf, List.map_cons, ih, List.map_cons]

/-- Lines that run one after the other in shells that follow a first one. -/
inductive RanAll (sh₀ : Shell) (here : Location) (targets : List Bytes) (written : List NodeId)
    (behaviour : Behaviour) (default : Outlet) : Shell → Outlet → List LineCall → Prop
  /-- No line is left to be run. -/
  | nil {sh output} :
      sh₀.Follows here targets written sh →
      RanAll sh₀ here targets written behaviour default sh output []
  /-- The first line runs, and the others in the shell that it leaves. -/
  | cons {sh output call rest files opened outlet} :
      sh₀.Redirects here targets written behaviour default call →
      output.openNode? = default.openNode? →
      sh₀.Follows here targets written (sh.withFiles files) →
      sh.Ran here targets call output (sh.answer behaviour call) files opened outlet →
      RanAll sh₀ here targets written behaviour default
        (sh.execute call.text ⟨call.input, output⟩).shell
        (sh.execute call.text ⟨call.input, output⟩).streams.output rest →
      RanAll sh₀ here targets written behaviour default sh output (call :: rest)

variable {sh₀ sh : Shell} {here : Location} {targets : List Bytes} {written : List NodeId}
  {behaviour : Behaviour} {default output : Outlet} {calls : List LineCall}

/-- The directives of all the lines. -/
def directivesOf (calls : List LineCall) : List Redirection :=
  calls.flatMap (·.line.redirections)

/-- Lines can be run one after the other if each can be run, and their directives for standard input
    find their files. -/
theorem Follows.ranAll (h : sh₀.Follows here targets written sh)
    (hr : ∀ call ∈ calls, sh₀.Redirects here targets written behaviour default call)
    (hdefault : output.openNode? = default.openNode?)
    (hinputs : FileSystem.FindsInputs
      (fun name => sh.host.world.files.named? here.node name ≠ none) (directivesOf calls)) :
    RanAll sh₀ here targets written behaviour default sh output calls := by
  induction calls generalizing sh output with
  | nil => exact .nil h
  | cons call rest ih =>
    have hcall := hr call List.mem_cons_self
    have hsplit : directivesOf (call :: rest) = call.line.redirections ++ directivesOf rest :=
      List.flatMap_cons
    rw [hsplit] at hinputs
    obtain ⟨files, opened, outlet, hran, hfollows⟩ := h.ran hcall hdefault hinputs.left
    have hnamed : ∀ name, (sh.execute call.text ⟨call.input, output⟩).shell.host.world.files.named?
        here.node name = files.named? here.node name := hran.wrote.named?_eq hfollows
    refine .cons hcall hdefault hfollows hran ?_
    -- A file that is there for a later line still is, and one that this line makes is there now.
    refine ih (hran.follows hfollows hcall hdefault)
      (fun call' hcall' => hr call' (List.mem_cons_of_mem _ hcall'))
      (hran.default_openNode?.trans hdefault) (hinputs.right ?_ ?_)
    · intro name hthere
      obtain ⟨id, hid⟩ := Option.ne_none_iff_exists'.1 hthere
      rw [hnamed, hran.opens.kept name id hid]
      exact Option.some_ne_none id
    · intro r hmem
      rw [hnamed]
      exact hran.opens.there r hmem

namespace RanAll

/-- The last shell follows the first one. -/
theorem follows (h : RanAll sh₀ here targets written behaviour default sh output calls) :
    sh₀.Follows here targets written (sh.executeAll output calls).1 := by
  induction h with
  | nil hfollows => exact hfollows
  | cons _ _ _ _ _ ih => exact ih

/-- The targets are as the lines leave them, one after the other. -/
theorem contents (h : RanAll sh₀ here targets written behaviour default sh output calls)
    {name : Bytes} (hname : name ∈ targets) :
    (sh.executeAll output calls).1.host.world.files.fileIn? here.node name
      = contentsAfter (sh.runsOf behaviour output calls) name
          (sh.host.world.files.fileIn? here.node name) := by
  induction h with
  | nil => rfl
  | cons hr hdefault hfollows hran _ ih =>
    rw [executeAll, ih, hran.contents hfollows hr hdefault hname]
    rfl

/-- A default writer in the memory of the shell gets what `echo` writes on lines that do not
    redirect their output, in the order of the lines. -/
theorem memory (h : RanAll sh₀ here targets written behaviour default sh output calls)
    {capture : Capture} (houtput : output = .memory capture) (hroom : capture.room = none) :
    (sh.executeAll output calls).2 = .memory (capture.add
      (sentTo none ((sh.runsOf behaviour output calls).filter
        fun run => run.1.name? = some Builtin.echoName))) := by
  induction h generalizing capture with
  | nil =>
    show _ = Outlet.memory (capture.add [])
    rw [executeAll, houtput, Capture.add_nil]
  | @cons sh _ call rest _ _ _ _ _ _ hran _ ih =>
    subst houtput
    rw [executeAll, runsOf, ih (hran.memory hroom) hroom, Capture.add_add]
    by_cases hecho : call.line.name? = some Builtin.echoName
    · rw [List.filter_cons_of_pos (by simp [hecho]), sentTo_cons]
      simp only [hecho, true_and]
    · rw [List.filter_cons_of_neg (by simp [hecho]), if_neg fun hboth => hecho hboth.1,
        List.nil_append]

/-- The standard output of the shell's process gets what all commands write on lines that do not
    redirect their output, in the order of the lines. -/
theorem terminal (h : RanAll sh₀ here targets written behaviour default sh output calls)
    (houtput : output = .terminal) (hroom : sh.host.world.terminal.output.room = none) :
    (sh.executeAll output calls).2 = .terminal ∧
      (sh.executeAll output calls).1.host.world.terminal.output
        = sh.host.world.terminal.output.add (sentTo none (sh.runsOf behaviour output calls)) := by
  induction h with
  | @nil sh output _ =>
    refine ⟨houtput, ?_⟩
    show _ = sh.host.world.terminal.output.add []
    rw [executeAll, Capture.add_nil]
  | cons _ _ _ hran _ ih =>
    subst houtput
    obtain ⟨hdefault, hstep⟩ := hran.terminal
    have hwritten := hstep hroom
    obtain ⟨hlast, hall⟩ := ih hdefault (by rw [hwritten]; exact hroom)
    refine ⟨hlast, ?_⟩
    rw [executeAll, hall, hwritten, runsOf, sentTo_cons, Capture.add_add]

end RanAll

/-! ### The law -/

/-- The names of the files that lines redirect to and from. -/
def targetsOf (calls : List LineCall) : List Bytes := (directivesOf calls).map Redirection.name

/-- The files that are there and that lines may write: those that they redirect to, and the one that
    the default writer keeps open. -/
def mayWrite (sh : Shell) (here : Location) (output : Outlet) (calls : List LineCall) :
    List NodeId :=
  (targetsOf calls).filterMap (sh.host.world.files.named? here.node) ++ output.openNode?.toList

/-- A shell in whose directory lines can redirect their input and output, where each of them runs
    `echo` or a filter. -/
structure CanRedirect (sh : Shell) (here : Location) (behaviour : Behaviour) (output : Outlet)
    (calls : List LineCall) : Prop where
  /-- The directory of the session is absolute, and the names of the files are plain names in it,
      each free or that of a regular file, and no two those of one file. -/
  has_targets : sh.host.world.files.HasTargets sh.host.directory sh.session.directory here
    (targetsOf calls)
  /-- What is read is there when it is opened. -/
  finds_inputs : FileSystem.FindsInputs
    (fun name => sh.host.world.files.named? here.node name ≠ none) (directivesOf calls)
  /-- No line reads from the file that it writes to. -/
  apart : ∀ call ∈ calls, ∀ r r', Redirection.lastInput? call.line.redirections = some r →
    Redirection.lastOutput? call.line.redirections = some r' → r.name ≠ r'.name
  /-- The commands are `echo` and filters, and none of their files is written. -/
  answers : ∀ call ∈ calls, sh.Answers here (sh.mayWrite here output calls) behaviour call.line
  /-- What the shell has written can be passed on. -/
  flushes : sh.host.world.terminal.output.flushFailure = none
  /-- If the default writer is a file, that is none of those that lines redirect to or from. -/
  output_apart : ∀ id, output.openNode? = some id → sh.host.world.files.node? id ≠ none ∧
    ∀ name ∈ targetsOf calls, sh.host.world.files.named? here.node name ≠ some id
  /-- If a line reads from a file by default, that is none of those that may be written. -/
  input_apart : ∀ call ∈ calls, ∀ handle, call.input = .file handle →
    sh.host.world.files.node? handle.node ≠ none ∧ handle.node ∉ sh.mayWrite here output calls

namespace CanRedirect

/-- Lines that redirect within the directory of the session run one after the other. -/
theorem ranAll (h : sh.CanRedirect here behaviour output calls) :
    RanAll sh here (targetsOf calls) (sh.mayWrite here output calls) behaviour output sh output
      calls := by
  have hstart : sh.Follows here (targetsOf calls) (sh.mayWrite here output calls) sh :=
    { session := rfl
      programs := rfl
      directory := rfl
      files := FileSystem.Redirected.refl h.has_targets fun name hname id hid =>
        List.mem_append_left _ (List.mem_filterMap.2 ⟨name, hname, hid⟩)
      flushes := h.flushes }
  refine hstart.ranAll (fun call hcall => ?_) rfl h.finds_inputs
  refine ⟨fun r hr => ?_, h.apart call hcall, h.answers call hcall, h.input_apart call hcall,
    fun id hid => ⟨?_, h.output_apart id hid⟩⟩
  · exact List.mem_map_of_mem (List.mem_flatMap.2 ⟨call, hcall, hr⟩)
  · exact List.mem_append_right _ (Option.mem_toList.2 hid)

/-- A file that lines redirect to or from is there, or one of the lines makes it. -/
theorem there_or_made (h : sh.CanRedirect here behaviour output calls) {name : Bytes}
    (hname : name ∈ targetsOf calls) :
    sh.host.world.files.fileIn? here.node name ≠ none ∨
      ∃ run ∈ sh.runsOf behaviour output calls, run.1.Makes name := by
  -- A directive of some line makes the file, or finds it.
  have hmade : (∃ r ∈ directivesOf calls, r.isOutput = true ∧ r.name = name) →
      ∃ run ∈ sh.runsOf behaviour output calls, run.1.Makes name := by
    rintro ⟨r, hr, houtput, hsame⟩
    obtain ⟨call, hcall, hmem⟩ := List.mem_flatMap.1 hr
    have hline : call.line ∈ (sh.runsOf behaviour output calls).map (·.1) := by
      rw [map_fst_runsOf]
      exact List.mem_map_of_mem hcall
    obtain ⟨run, hrun, hline⟩ := List.mem_map.1 hline
    exact ⟨run, hrun, r, hline ▸ hmem, houtput, hsame⟩
  obtain ⟨r, hr, hsame⟩ := List.mem_map.1 hname
  by_cases houtput : r.isOutput = true
  · exact .inr (hmade ⟨r, hr, houtput, hsame⟩)
  · obtain ⟨before, rest, hsplit⟩ := List.append_of_mem hr
    rcases h.finds_inputs before r rest hsplit (Bool.eq_false_iff.2 houtput) with
      hthere | ⟨r', hr', houtput', hsame'⟩
    · left
      obtain ⟨id, hid⟩ := Option.ne_none_iff_exists'.1 hthere
      rw [hsame] at hid
      obtain ⟨mode, content, hfile⟩ := h.has_targets.regular name hname id hid
      rw [FileSystem.fileIn?, hid, Option.bind_some, FileSystem.bytes?_of_file hfile]
      exact Option.some_ne_none _
    · exact .inr (hmade ⟨r', hsplit ▸ List.mem_append_left _ hr', houtput', hsame'.trans hsame⟩)

end CanRedirect

/-- **Redirected output.** Lines are run one after the other, each of them `echo` or a filter, with
    directives for files of the session's directory in any number and order. Afterwards:

* a file that some line empties holds what was written to it by the last of these lines and the
  lines after it;
* a file that no line empties holds its bytes, if it was there, and then what the lines wrote to it;
* no other name is made, and no other file is changed;
* a default writer in memory has got what `echo` wrote on lines that do not redirect their output,
  and the terminal what any command wrote on such lines.

A line writes to the file of its last directive for standard output only, in the order of the
lines. -/
theorem executeAll_redirected (h : sh.CanRedirect here behaviour output calls) :
    (∀ name ∈ targetsOf calls,
      (∀ before last rest, sh.runsOf behaviour output calls = before ++ last :: rest →
        last.1.Truncates name → (∀ run ∈ rest, ¬ run.1.Truncates name) →
        (sh.executeAll output calls).1.host.world.files.fileIn? here.node name
          = some (sentTo (some name) (last :: rest))) ∧
      ((∀ run ∈ sh.runsOf behaviour output calls, ¬ run.1.Truncates name) →
        (sh.executeAll output calls).1.host.world.files.fileIn? here.node name
          = some ((sh.host.world.files.fileIn? here.node name).getD [] ++
              sentTo (some name) (sh.runsOf behaviour output calls)))) ∧
    (∀ name ∉ targetsOf calls,
      (sh.executeAll output calls).1.host.world.files.named? here.node name
        = sh.host.world.files.named? here.node name) ∧
    (∀ id node, sh.host.world.files.node? id = some node → id ≠ here.node →
      id ∉ sh.mayWrite here output calls →
      (sh.executeAll output calls).1.host.world.files.node? id = some node) ∧
    (∀ capture, output = .memory capture → capture.room = none →
      (sh.executeAll output calls).2 = .memory (capture.add
        (sentTo none ((sh.runsOf behaviour output calls).filter
          fun run => run.1.name? = some Builtin.echoName)))) ∧
    (output = .terminal → sh.host.world.terminal.output.room = none →
      (sh.executeAll output calls).2 = .terminal ∧
        (sh.executeAll output calls).1.host.world.terminal.output
          = sh.host.world.terminal.output.add
              (sentTo none (sh.runsOf behaviour output calls))) := by
  have hran := h.ranAll
  have hafter := hran.follows
  refine ⟨fun name hname => ⟨?_, ?_⟩, fun name hname => ?_, fun id node hnode hhere hnot => ?_,
    fun capture houtput hroom => hran.memory houtput hroom,
    fun houtput hroom => hran.terminal houtput hroom⟩
  · intro before last rest hsplit hlast hrest
    rw [hran.contents hname, hsplit, contentsAfter_of_truncates hlast hrest]
  · intro hkeeps
    rw [hran.contents hname, contentsAfter_of_not_truncates hkeeps (h.there_or_made hname)]
  · exact hafter.files.named?_other hname
  · obtain ⟨node', hnode', -, hsame⟩ := hafter.files.grown.kept hnode hhere
    rw [hnode', hsame hnot]

end Shell

/-! ### A copy, and a line after it -/

namespace Sample

/-- A program, and a directory with one file. -/
def files : FileSystem :=
  ⟨#[.directory [(Bytes.ofString "d", 1), (Bytes.ofString "cat", 2)],
    .directory [(Bytes.ofString "a", 3)],
    .file 0o755 [],
    .file 0o644 (Bytes.ofString "hi")]⟩

/-- The directory with one file. -/
def here : Location := Location.root.child (Bytes.ofString "d") 1

/-- A shell in that directory, on a system whose only program is `cat`. -/
def shell : Shell :=
  { session := { directory := Path.ofString "/d" }
    host :=
      { world := { files, terminal := {}, shell := { pid := 1 }, nextPid := 2 }
        programs := fun _ => some (Tool.program Tools.cat)
        directory := .root
        mask := 0o022
        executable := Path.ofString "/shell"
        accountHome := Path.ofString "/" } }

/-- A line that copies the file, and a line that writes after the copy. -/
def calls : List LineCall :=
  [{ text := "/cat < a > b"
     line := ⟨["/cat"], [⟨.input, "a"⟩, ⟨.truncate, "b"⟩], false⟩
     reads := by decide +kernel
     input := .nothing },
    { text := "echo x >> b"
      line := ⟨["echo", "x"], [⟨.append, "b"⟩], false⟩
      reads := by decide +kernel
      input := .nothing }]

/-- Programs answer what they read. -/
def behaviour : Behaviour := fun _ _ stdin => stdin.toOption.getD []

theorem straight_here : files.Straight here :=
  .child .root rfl rfl rfl (by decide) (by decide) (by decide) (fun _ h => by cases h)

/-- The directory is where its path leads. -/
theorem isDirectoryAt_here : files.IsDirectoryAt .root (Path.ofString "/d") here
    [(Bytes.ofString "a", 3)] where
  absolute := by decide
  leads := straight_here.canonicalize rfl (by decide) (by decide) .root
  holds := rfl

/-- It has one name. -/
theorem named?_eq (name : Bytes) : files.named? here.node name
    = if Bytes.ofString "a" = name then some 3 else none :=
  (FileSystem.named?_eq isDirectoryAt_here.holds name).trans (FileSystem.lookup_singleton _ _ _)

theorem targetsOf_calls : Shell.targetsOf calls
    = [Bytes.ofString "a", Bytes.ofString "b", Bytes.ofString "b"] := rfl

/-- The lines can redirect to the copy, which is not there yet, and from the file. -/
theorem hasTargets : files.HasTargets .root (Path.ofString "/d") here (Shell.targetsOf calls) where
  leads := ⟨_, isDirectoryAt_here⟩
  plain := by
    intro name hname
    simp only [targetsOf_calls, List.mem_cons, List.not_mem_nil, or_false] at hname
    rcases hname with rfl | rfl | rfl <;> constructor <;> decide
  regular := by
    intro name _ id hid
    rw [named?_eq] at hid
    split_ifs at hid
    cases hid
    exact ⟨0o644, Bytes.ofString "hi", rfl⟩
  distinct := by
    intro name _ name' _ id hid hid'
    rw [named?_eq] at hid hid'
    split_ifs at hid hid' with hname hname'
    exact hname.symm.trans hname'

/-- The file that is copied is there. -/
theorem findsInputs : FileSystem.FindsInputs (fun name => files.named? here.node name ≠ none)
    (Shell.directivesOf calls) := by
  have hdirectives : Shell.directivesOf calls
      = [⟨.input, "a"⟩, ⟨.truncate, "b"⟩, ⟨.append, "b"⟩] := rfl
  rintro before r rest hsplit hr
  rw [hdirectives] at hsplit
  left
  rcases before with _ | ⟨first, before⟩
  · cases hsplit
    have hname : Bytes.ofString "a" = (⟨.input, "a"⟩ : Redirection).name := rfl
    rw [named?_eq, if_pos hname]
    exact Option.some_ne_none _
  · -- After the first directive all are for standard output.
    have hmem : r ∈ ([⟨.truncate, "b"⟩, ⟨.append, "b"⟩] : List Redirection) := by
      rw [(List.cons.inj hsplit).2]
      simp
    simp only [List.mem_cons, List.not_mem_nil, or_false] at hmem
    rcases hmem with rfl | rfl <;> cases hr

/-- The program is where its path leads. -/
theorem locate_cat (start : Location) : files.locate start (Path.ofString "/cat")
    = .ok (Location.root.child (Bytes.ofString "cat") 2) := by
  have hstraight : files.Straight (Location.root.child (Bytes.ofString "cat") 2) :=
    .child .root rfl rfl rfl (by decide) (by decide) (by decide) (fun _ h => by cases h)
  exact hstraight.locate rfl (by decide) start

/-- `cat` writes what it reads, also while the copied file is open. -/
theorem isFilter_cat : shell.IsFilter here [3] "/cat" [] (behaviour "/cat" [])
    (Path.ofString "/cat") (Tool.program Tools.cat) [Bytes.ofString "/cat"] where
  not_builtin := by decide
  found := if_pos (FileSystem.isRegular_iff.2
    ⟨_, _, _, FileSystem.guarded_eq_ok.2 ⟨by decide, locate_cat _⟩, rfl⟩)
  no_nul := by decide
  fits := by decide
  loads := by
    show Execution.load _ files _ _ _ (4 + 1) _ = _
    rw [Execution.load, locate_cat]
    rfl
  answers := by
    intro process w harguments _ _ herrors hapart _
    have hnone : process.arguments.drop 1 = [] := by rw [harguments]; rfl
    exact Tools.cat_answers hnone herrors hapart

theorem mayWrite_eq : shell.mayWrite here (.memory {}) calls = [3] := by
  unfold Shell.mayWrite
  rw [targetsOf_calls]
  show List.filterMap (files.named? here.node) _ ++ _ = _
  simp only [List.filterMap_cons, named?_eq, List.filterMap_nil]
  rfl

/-- All that is asked of the shell and the lines is the case. -/
theorem canRedirect : shell.CanRedirect here behaviour (.memory {}) calls where
  has_targets := hasTargets
  finds_inputs := findsInputs
  apart := by
    intro call hcall r r' hr hr'
    simp only [calls, List.mem_cons, List.not_mem_nil, or_false] at hcall
    rcases hcall with rfl | rfl
    · cases hr
      cases hr'
      decide
    · cases hr
  answers := by
    intro call hcall
    rw [mayWrite_eq]
    simp only [calls, List.mem_cons, List.not_mem_nil, or_false] at hcall
    rcases hcall with rfl | rfl
    · exact .inr ⟨"/cat", _, _, _, rfl, by decide, rfl, isFilter_cat⟩
    · exact .inl rfl
  flushes := rfl
  output_apart := by
    intro id hid
    cases hid
  input_apart := by
    intro call hcall handle hhandle
    simp only [calls, List.mem_cons, List.not_mem_nil, or_false] at hcall
    rcases hcall with rfl | rfl <;> cases hhandle

/-- The files once the copy is there. -/
def filesCopied : FileSystem :=
  (files.addEntry here.node (Bytes.ofString "b") (.file 0o644 [])).1

/-- The directives of the first line open, and leave what is to be copied. -/
theorem opens_copying : shell.Opens [⟨.input, "a"⟩, ⟨.truncate, "b"⟩] filesCopied
    { input := some ⟨3, 0, false⟩, output := some ⟨4, 0, false⟩ } := by
  have hplain := hasTargets.plain
  have hcopied : files.openInput .root ((Path.ofString "/d").join ⟨Bytes.ofString "a"⟩) = .ok 3 :=
    FileSystem.openInput_plain isDirectoryAt_here (hplain _ (by decide)) rfl rfl
  have hmade : files.openOutput 0o022 .root ((Path.ofString "/d").join ⟨Bytes.ofString "b"⟩) true
      = .ok (filesCopied, 4) :=
    FileSystem.openOutput_vacant isDirectoryAt_here (hplain _ (by decide)) rfl true
  have hinput : (⟨.input, "a"⟩ : Redirection).openIn 0o022 .root (Path.ofString "/d") files
      = .ok (files, ⟨3, 0, false⟩) := by
    rw [Redirection.openIn_input rfl]
    exact congrArg (Except.map _) hcopied
  have houtput : (⟨.truncate, "b"⟩ : Redirection).openIn 0o022 .root (Path.ofString "/d") files
      = .ok (filesCopied, ⟨4, 0, false⟩) := by
    rw [Redirection.openIn_output rfl]
    exact congrArg (Except.map _) hmade
  exact .cons hinput (.cons houtput .nil)

/-- What the two commands write. -/
theorem runsOf_calls : shell.runsOf behaviour (.memory {}) calls
    = [(⟨["/cat"], [⟨.input, "a"⟩, ⟨.truncate, "b"⟩], false⟩, Bytes.ofString "hi"),
      (⟨["echo", "x"], [⟨.append, "b"⟩], false⟩, Bytes.ofString "x \n")] := by
  have hread : ∀ call : LineCall, call.line.redirections = [⟨.input, "a"⟩, ⟨.truncate, "b"⟩] →
      shell.readable call = .ok (Bytes.ofString "hi") := by
    intro call hcall
    rw [Shell.readable_of_opens (hcall ▸ opens_copying) .discard]
    rfl
  show [(_, behaviour "/cat" [] (shell.readable _)), (_, _)] = _
  rw [hread _ rfl]
  rfl

/-- After both lines the copy holds what was copied and what was written after it, and the default
    writer has got nothing. -/
theorem redirected_calls : shell.CanRedirect here behaviour (.memory {}) calls ∧
    (shell.executeAll (.memory {}) calls).1.host.world.files.fileIn? here.node (Bytes.ofString "b")
      = some (Bytes.ofString "hix \n") ∧
    (shell.executeAll (.memory {}) calls).2 = .memory {} := by
  obtain ⟨htargets, -, -, hmemory, -⟩ := Shell.executeAll_redirected canRedirect
  have hcopy := (htargets (Bytes.ofString "b") (by decide)).1 [] _ _ runsOf_calls
    ⟨⟨.truncate, "b"⟩, by decide, rfl, rfl⟩
  have hwriter := hmemory {} rfl rfl
  rw [runsOf_calls] at hwriter
  refine ⟨canRedirect, hcopy ?_, hwriter⟩
  intro run hrun
  obtain rfl := List.mem_singleton.1 hrun
  rintro ⟨r, hr, htruncate, -⟩
  obtain rfl := List.mem_singleton.1 hr
  cases htruncate

end Sample

end CommandShell

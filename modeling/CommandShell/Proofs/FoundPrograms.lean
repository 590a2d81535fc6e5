import CommandShell.Proofs.RefusedPrograms

namespace CommandShell

/-!
# FoundPrograms — the program that is found and the program that is run

The lookup reads the path of a program from the directory of the shell's process, and the child
reads it from the directory of the session. Both are led to the same file if the path starts at the
root, as it does in a session whose directory does, or if the two directories are one:

* `Lookup.isRegular_of_find`, `Lookup.contains_separator_of_find` — what the lookup finds;
* `Execution.run_of_machineCode`, `Execution.run_notFound` — what a child runs;
* `Shell.runs_found_program` — the two together.
-/

/-! ### What is found -/

/-- It does not matter where a path from the root is read. -/
theorem FileSystem.locate_of_absolute {path : Path} (h : path.isAbsolute = true) (fs : FileSystem)
    (start start' : Location) : fs.locate start path = fs.locate start' path := by
  unfold locate startOf
  rw [if_pos h, if_pos h]

/-- A path that was read from a directory has a separator. -/
theorem Path.contains_separator_join {directory : Path} (h : directory.bytes ≠ []) (path : Path) :
    (directory.join path).bytes.contains separator = true := by
  unfold join
  split_ifs with habsolute hlast
  · exact contains_separator habsolute
  · have hlast : directory.bytes.getLast? = some separator := by simpa [h] using hlast
    have hmem : separator ∈ directory.bytes := List.mem_of_getLast? hlast
    simp [hmem]
  · simp

namespace Lookup

variable {fs : FileSystem} {start : Location} {searchPath : Bytes} {directory name program : Path}

theorem findAt_eq_some_iff {path : Path} :
    findAt fs start path = some program ↔ fs.isRegular start path = true ∧ path = program := by
  unfold findAt
  split_ifs with h <;> simp [h]

/-- **What is found** is a regular file, at a path that is read from the session's directory. -/
theorem find_spec (h : find fs start searchPath directory name = some program) :
    fs.isRegular start program = true ∧
      ∃ path, program = directory.join path ∨
        ∃ entry, program = (directory.join entry).join path := by
  have hat : ∀ path, findAt fs start (directory.join path) = some program →
      fs.isRegular start program = true ∧
        ∃ path, program = directory.join path ∨
          ∃ entry, program = (directory.join entry).join path := by
    intro path hpath
    obtain ⟨hregular, rfl⟩ := findAt_eq_some_iff.1 hpath
    exact ⟨hregular, path, .inl rfl⟩
  unfold find at h
  split at h
  · cases h
  · split_ifs at h
    · exact hat _ h
    · -- Along the search path, the first that may be run is taken.
      have hmem := List.mem_of_find?_eq_some h
      obtain ⟨entry, -, rfl⟩ := List.mem_map.1 hmem
      have htest := List.find?_some h
      rw [Bool.and_eq_true] at htest
      exact ⟨htest.1, _, .inr ⟨entry, rfl⟩⟩
  · exact hat _ h

theorem contains_separator_of_find (hdirectory : directory.bytes ≠ [])
    (h : find fs start searchPath directory name = some program) :
    program.bytes.contains Path.separator = true := by
  obtain ⟨-, path, rfl | ⟨entry, rfl⟩⟩ := find_spec h
  · exact Path.contains_separator_join hdirectory path
  · refine Path.contains_separator_join (fun hempty => ?_) path
    have hcontains := Path.contains_separator_join hdirectory entry
    rw [hempty] at hcontains
    cases hcontains

end Lookup

/-! ### What is run -/

namespace Execution

variable {programs : Programs} {fs : FileSystem} {start found : Location} {busy : List NodeId}
  {arguments loaded : List Bytes} {interpreters : Nat} {path : Path} {mode : Nat} {content : Bytes}
  {program : Program}

/-- A file that is there is loaded by what it holds. -/
theorem load_of_file (hfound : fs.locate start path = .ok found)
    (hfile : fs.node? found.node = some (.file mode content)) :
    load programs fs start busy arguments (interpreters + 1) path =
      if !FileSystem.runnable mode then .error .permissionDenied
      else if busy.contains found.node then .error .textBusy
      else match Image.ofContent content with
        | .unreadable => .error .badFormat
        | .interpreted interpreter argument =>
          load programs fs start busy
            (interpreter.bytes :: argument.toList ++ path.bytes :: arguments.drop 1)
            interpreters interpreter
        | .machineCode =>
          match programs content with
          | some program => .ok (program, arguments)
          | none => .error .badFormat := by
  rw [load]
  rcases himage : Image.ofContent content with _ | ⟨interpreter, argument⟩ | _
  · rcases hprogram : programs content with _ | program <;>
      simp only [bind, Except.bind, hfound, hfile, himage, hprogram]
  · simp only [bind, Except.bind, hfound, hfile, himage]
  · simp only [bind, Except.bind, hfound, hfile, himage]

/-- What is loaded without an interpreter is the program that the file holds. -/
theorem load_eq_ok (hfound : fs.locate start path = .ok found)
    (hfile : fs.node? found.node = some (.file mode content))
    (hcode : ∀ interpreter argument, Image.ofContent content ≠ .interpreted interpreter argument)
    (h : load programs fs start busy arguments (interpreters + 1) path = .ok (program, loaded)) :
    programs content = some program ∧ loaded = arguments := by
  rw [load_of_file hfound hfile] at h
  split_ifs at h
  rcases himage : Image.ofContent content with _ | ⟨interpreter, argument⟩ | _
  · rw [himage] at h
    rcases hprogram : programs content with _ | program'
    · simp [hprogram] at h
    · simp only [hprogram] at h
      cases h
      exact ⟨rfl, rfl⟩
  · exact absurd himage (hcode interpreter argument)
  · rw [himage] at h
    cases h

/-- Then nothing is missing. -/
theorem load_notFound (hfound : fs.locate start path = .ok found)
    (hfile : fs.node? found.node = some (.file mode content))
    (h : load programs fs start busy arguments (interpreters + 1) path = .error .notFound) :
    ∃ interpreter argument, Image.ofContent content = .interpreted interpreter argument := by
  rw [load_of_file hfound hfile] at h
  -- The refusals that come before the interpreter is looked for have other reasons.
  rcases himage : Image.ofContent content with _ | ⟨interpreter, argument⟩ | _
  · rw [himage] at h
    split_ifs at h
    · cases h
    · cases h
    · rcases hprogram : programs content with _ | program <;> rw [hprogram] at h <;> cases h
  · exact ⟨interpreter, argument, rfl⟩
  · rw [himage] at h
    split_ifs at h <;> cases h

variable {depth : Nat} {process : Process} {w : World}

/-- **A process** that runs the file at a path runs the program that the file holds, unless the file
    is to be interpreted; -/
theorem run_eq_ok {ended : Ended} (hfound : w.files.locate process.directory path = .ok found)
    (hfile : w.files.node? found.node = some (.file mode content))
    (hcode : ∀ interpreter argument, Image.ofContent content ≠ .interpreted interpreter argument)
    (h : run programs (depth + 1) process path w = .ok ended) :
    ∃ program, programs content = some program ∧
      ended = program (run programs depth) process w := by
  rw [run] at h
  rcases hload : load programs w.files process.directory
      ([process.output, process.errors].filterMap Outlet.openNode?) process.arguments
      interpreterLimit path with reason | ⟨program, loaded⟩
  · simp only [bind, Except.bind, hload] at h
    cases h
  · obtain ⟨hprogram, rfl⟩ := load_eq_ok hfound hfile hcode hload
    simp only [bind, Except.bind, hload] at h
    split_ifs at h
    cases h
    exact ⟨program, hprogram, rfl⟩

/-- and only then can anything be missing. -/
theorem run_notFound (hfound : w.files.locate process.directory path = .ok found)
    (hfile : w.files.node? found.node = some (.file mode content))
    (h : run programs (depth + 1) process path w = .error .notFound) :
    ∃ interpreter argument, Image.ofContent content = .interpreted interpreter argument := by
  rw [run] at h
  rcases hload : load programs w.files process.directory
      ([process.output, process.errors].filterMap Outlet.openNode?) process.arguments
      interpreterLimit path with reason | ⟨program, loaded⟩
  · simp only [bind, Except.bind, hload] at h
    cases h
    exact load_notFound hfound hfile hload
  · simp only [bind, Except.bind, hload] at h
    split_ifs at h
    cases h

end Execution

/-! ### Both -/

theorem FileSystem.exists_file_of_isRegular {fs : FileSystem} {start : Location} {path : Path}
    (h : fs.isRegular start path = true) :
    ∃ found mode content, fs.locate start path = .ok found ∧
      fs.node? found.node = some (.file mode content) := by
  unfold isRegular at h
  split at h
  · rename_i found hfound
    split at h
    · rename_i mode content hfile
      exact ⟨found, mode, content, (guarded_eq_ok.1 hfound).2, hfile⟩
    · cases h
  · cases h

namespace Shell

variable {sh : Shell} {c : ProgramCommand} {program : Path} {here : Location}

/-- **The program that is found is the program that is run**, if its path starts at the root, or if
    the session is where the shell's process is. The first is so wherever the directory of the
    session starts at the root.

The path leads the child to the file that the lookup was led to. If the child starts, and the file
is not to be interpreted, then what runs is the program that the file holds; and if the child is
refused because something is not found, then it is the interpreter. -/
theorem runs_found_program
    (hlocate : sh.host.world.files.locate sh.host.directory sh.session.directory = .ok here)
    (hhere : sh.host.world.files.isDirectory here.node = true)
    (hprogram : c.program? sh = some program)
    (hplace : sh.session.directory.isAbsolute = true ∨ program.isAbsolute = true ∨
      here = sh.host.directory) (io : Streams) :
    let fs := sh.host.world.files
    let start := sh.host.start (c.request program io sh)
    ∃ found mode content, fs.node? found.node = some (.file mode content) ∧
      fs.locate sh.host.directory program = .ok found ∧ fs.locate here program = .ok found ∧
      (∀ ended, start = .ok ended →
        (∀ interpreter argument,
          Image.ofContent content ≠ .interpreted interpreter argument) →
        ∃ run, sh.host.programs content = some run ∧
          ended = run (Execution.run sh.host.programs (Execution.nestingLimit - 1))
            (sh.child here ((c.name :: c.arguments).map Bytes.ofString) io)
            { sh.host.world with nextPid := sh.host.world.nextPid + 1 }) ∧
      (start = .error .notFound → ∃ interpreter argument,
        Image.ofContent content = .interpreted interpreter argument) := by
  dsimp only
  obtain ⟨found, mode, content, hfound, hfile⟩ :=
    FileSystem.exists_file_of_isRegular (Lookup.find_spec hprogram).1
  have hsame : sh.host.world.files.locate here program = .ok found := by
    rcases hplace with habsolute | habsolute | rfl
    · rw [← hfound]
      exact FileSystem.locate_of_absolute (Lookup.isAbsolute_of_find habsolute hprogram) ..
    · rw [← hfound]
      exact FileSystem.locate_of_absolute habsolute ..
    · exact hfound
  have hseparator : program.bytes.contains Path.separator = true := by
    refine Lookup.contains_separator_of_find (fun hempty => ?_) hprogram
    -- No directory has the empty path.
    obtain ⟨hcheck, -⟩ := FileSystem.locate_eq_ok.1 hlocate
    rw [FileSystem.checkPath, hempty] at hcheck
    cases hcheck
  -- So there is no search along `PATH`, and the child runs what the path leads it to.
  rw [start_in c io hlocate hhere hseparator]
  refine ⟨found, mode, content, hfile, hfound, hsame, fun ended hstart hcode => ?_, ?_⟩
  · exact Execution.run_eq_ok hsame hfile hcode hstart
  · exact Execution.run_notFound hsame hfile

end Shell

namespace Sample

/-- From the session's directory, `/cat` leads to the file that is found from the root. -/
theorem found_cat :
    ProgramCommand.program? ⟨"/cat", [], false⟩ shell = some (Path.ofString "/cat") ∧
    shell.session.directory.isAbsolute = true ∧ ∃ found,
      files.locate .root (Path.ofString "/cat") = .ok found ∧
      files.locate here (Path.ofString "/cat") = .ok found := by
  have hfound : ProgramCommand.program? ⟨"/cat", [], false⟩ shell = some (Path.ofString "/cat") :=
    isFilter_cat.found
  have habsolute : shell.session.directory.isAbsolute = true := by decide
  obtain ⟨found, mode, content, -, htested, hrun, -⟩ := Shell.runs_found_program
    isDirectoryAt_here.located.2 (by decide) hfound (.inl habsolute) {}
  exact ⟨hfound, habsolute, found, htested, hrun⟩

/-- A directory with a program in it. -/
def toolbox : FileSystem :=
  ⟨#[.directory [(Bytes.ofString "sub", 1)], .directory [(Bytes.ofString "tool", 2)],
    .file 0o755 []]⟩

/-- A session in that directory, which it knows by a relative path. -/
def relative : Shell := ⟨{ directory := Path.ofString "sub" }, shell.host.withFiles toolbox⟩

/-- A call of the program. -/
def toolCall : StartedCommand := ⟨"./tool", [], [], false, toolbox, {}⟩

/-- Where the session is. -/
def shed : Location := Location.root.child (Bytes.ofString "sub") 1

theorem walk_shed (rest : List Bytes) :
    toolbox.walk FileSystem.linkLimit .root (Bytes.ofString "sub" :: rest)
      = toolbox.walk FileSystem.linkLimit shed rest :=
  FileSystem.walk_entry rfl (by decide) (by decide) (by decide) rfl (fun _ h => by cases h) _

theorem locate_shed : toolbox.locate .root (Path.ofString "sub") = .ok shed := by
  have hsegments : (Path.ofString "sub").segments = [Bytes.ofString "sub"] := by decide +kernel
  refine FileSystem.locate_eq_ok.2 ⟨by decide, ?_⟩
  rw [hsegments]
  exact (walk_shed []).trans (FileSystem.walk_nil ..)

theorem segments_tool : (Path.ofString "sub/./tool").segments
    = [Bytes.ofString "sub", Path.here, Bytes.ofString "tool"] := by
  decide +kernel

theorem walk_tool : toolbox.walk FileSystem.linkLimit shed [Bytes.ofString "tool"]
    = .ok (shed.child (Bytes.ofString "tool") 2) :=
  (FileSystem.walk_entry rfl (by decide) (by decide) (by decide) rfl (fun _ h => by cases h) _).trans
    (FileSystem.walk_nil ..)

/-- Where the shell's process is, the path leads to the program. -/
theorem locate_tool : toolbox.locate .root (Path.ofString "sub/./tool")
    = .ok (shed.child (Bytes.ofString "tool") 2) := by
  refine FileSystem.locate_eq_ok.2 ⟨by decide, ?_⟩
  rw [segments_tool]
  calc
    _ = toolbox.walk FileSystem.linkLimit shed [Path.here, Bytes.ofString "tool"] := walk_shed _
    _ = toolbox.walk FileSystem.linkLimit shed [Bytes.ofString "tool"] :=
      FileSystem.walk_blank rfl rfl _
    _ = _ := walk_tool

/-- Where the child is, it leads nowhere. -/
theorem locate_tool_shed : toolbox.locate shed (Path.ofString "sub/./tool") = .error .notFound := by
  show toolbox.walk FileSystem.linkLimit shed (Path.ofString "sub/./tool").segments = _
  rw [segments_tool, FileSystem.walk]
  rfl

theorem program?_toolCall :
    toolCall.program.program? relative = some (Path.ofString "sub/./tool") :=
  if_pos (FileSystem.isRegular_iff.2
    ⟨_, _, _, FileSystem.guarded_eq_ok.2 ⟨by decide, locate_tool⟩, rfl⟩)

theorem start_toolCall : relative.host.start (toolCall.program.request (Path.ofString "sub/./tool")
    {} relative) = .error .notFound := by
  rw [Shell.start_in toolCall.program {} locate_shed rfl (by decide)]
  show Execution.run _ (Execution.nestingLimit - 1 + 1) _ _ _ = _
  rw [Execution.run]
  show (do let _ ← Execution.load _ toolbox shed _ _ (4 + 1) _; _) = _
  rw [Execution.load, locate_tool_shed]
  rfl

theorem refusesChild_toolCall : relative.RefusesChild "./tool" {} toolCall (.os .notFound) where
  starts := ⟨by decide +kernel, .nil⟩
  foreign := by decide
  refused := ⟨_, ⟨⟨_, program?_toolCall, rfl⟩, rfl⟩,
    Host.spawn_eq_error_iff.2 (.inr ⟨by decide, _, start_toolCall, rfl⟩)⟩

/-- There the program is found, and running it fails because it is not found. -/
theorem lost_tool :
    toolbox.locate relative.host.directory relative.session.directory
      = .ok (Location.root.child (Bytes.ofString "sub") 1) ∧
    toolCall.program.program? relative = some (Path.ofString "sub/./tool") ∧
    toolbox.isRegular relative.host.directory (Path.ofString "sub/./tool") = true ∧
    (relative.execute "./tool" {}).result = .error (.launch "./tool" (.os .notFound)) :=
  ⟨locate_shed, program?_toolCall,
    (Lookup.find_spec program?_toolCall).1,
    congrArg Outcome.result refusesChild_toolCall.execute_eq⟩

end Sample

end CommandShell

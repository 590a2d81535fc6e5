import CommandShell.Proofs.CanonicalPaths
import CommandShell.Proofs.FoundPrograms
import CommandShell.Proofs.LineFrame
import CommandShell.Proofs.PairedShells
import CommandShell.Script
import Mathlib.Data.List.Find

namespace CommandShell

/-!
# ProcessDirectory — the directory of the session decides what paths lead to

The shell's process has a working directory of its own, which the system reads relative paths from.
As long as the directory of the session starts at the root, no path is left to that:

* `Shell.inDirectory` — the shell with its process in another directory;
* `FileSystem.openInput_of_absolute`, `Lookup.find_of_absolute`, … — requests with paths that start
  at the root;
* `Shell.Requests` — the child processes that a line asks for;
* `Shell.launching_sameSession` — the steps of commands do the same;
* `Shell.execute_inDirectory`, `Shell.requests_inDirectory` — so do lines, they ask for the same, and
  the directory of the session still starts at the root then;
* `Shell.session_directory_decides` — whole runs.
-/

/-- The system with the shell's process in another directory. -/
def Host.inDirectory (h : Host) (place : Location) : Host := { h with directory := place }

/-- The shell with its process in another directory. -/
def Shell.inDirectory (sh : Shell) (place : Location) : Shell :=
  { sh with host := sh.host.inDirectory place }

/-- The outcome with the shell's process in another directory. -/
def Outcome.inDirectory {ε : Type} (o : Outcome ε) (place : Location) : Outcome ε :=
  { o with shell := o.shell.inDirectory place }

/-! ### Paths that start at the root -/

namespace FileSystem

variable {path : Path}

theorem openInput_of_absolute (h : path.isAbsolute = true) (fs : FileSystem)
    (start start' : Location) : fs.openInput start path = fs.openInput start' path := by
  unfold openInput
  rw [locate_of_absolute h fs start start']

theorem openOutput_of_absolute (h : path.isAbsolute = true) (fs : FileSystem) (mask : Nat)
    (start start' : Location) (truncate : Bool) :
    fs.openOutput mask start path truncate = fs.openOutput mask start' path truncate := by
  unfold openOutput openForWriting locateNew startOf
  rw [if_pos h, if_pos h]

theorem readDirectory_of_absolute (h : path.isAbsolute = true) (fs : FileSystem)
    (start start' : Location) : fs.readDirectory start path = fs.readDirectory start' path := by
  unfold readDirectory
  rw [locate_of_absolute h fs start start']

theorem isRegular_of_absolute (h : path.isAbsolute = true) (fs : FileSystem)
    (start start' : Location) : fs.isRegular start path = fs.isRegular start' path := by
  unfold isRegular
  rw [locate_of_absolute h fs start start']

theorem isExecutable_of_absolute (h : path.isAbsolute = true) (fs : FileSystem)
    (start start' : Location) : fs.isExecutable start path = fs.isExecutable start' path := by
  unfold isExecutable
  rw [locate_of_absolute h fs start start']

theorem canonicalize_start_of_absolute (h : path.isAbsolute = true) (fs : FileSystem)
    (start start' : Location) : fs.canonicalize start path = fs.canonicalize start' path := by
  rw [canonicalize_of_absolute h, canonicalize_of_absolute h, locate_of_absolute h fs start start']

end FileSystem

/-- Every path that a name is tried at starts where the directory of the session does. -/
theorem Lookup.find_of_absolute {directory : Path} (h : directory.isAbsolute = true)
    (fs : FileSystem) (start start' : Location) (searchPath : Bytes) (name : Path) :
    find fs start searchPath directory name = find fs start' searchPath directory name := by
  have hat : findAt fs start (directory.join name) = findAt fs start' (directory.join name) := by
    unfold findAt
    rw [FileSystem.isRegular_of_absolute (Path.isAbsolute_join h name) fs start start']
  unfold find
  split
  · rfl
  · split_ifs
    · exact hat
    · refine List.find?_congr fun path hpath => ?_
      obtain ⟨entry, -, rfl⟩ := List.mem_map.1 hpath
      have hpath := Path.isAbsolute_join (Path.isAbsolute_join h entry)
      rw [FileSystem.isRegular_of_absolute (hpath _) fs start start',
        FileSystem.isExecutable_of_absolute (hpath _) fs start start']
  · exact hat

namespace Redirection

theorem openIn_of_absolute {directory : Path} (h : directory.isAbsolute = true) (r : Redirection)
    (mask : Nat) (start start' : Location) (fs : FileSystem) :
    r.openIn mask start directory fs = r.openIn mask start' directory fs := by
  have hpath := Path.isAbsolute_join h r.path
  unfold openIn
  cases r.direction with
  | input => simp only [FileSystem.openInput_of_absolute hpath fs start start']
  | truncate | append => simp only [FileSystem.openOutput_of_absolute hpath fs mask start start']

end Redirection

/-! ### The system -/

namespace Host

variable {request : Launch}

/-- A child is put into the directory that the request names. -/
theorem start_inDirectory (h : Host) (hrequest : request.directory.isAbsolute = true)
    (place : Location) : (h.inDirectory place).start request = h.start request := by
  have hlocate : (h.inDirectory place).world.files.locate (h.inDirectory place).directory
      request.directory = h.world.files.locate h.directory request.directory :=
    FileSystem.locate_of_absolute hrequest ..
  unfold start
  rw [hlocate]
  rfl

theorem spawn_inDirectory (h : Host) (hrequest : request.directory.isAbsolute = true)
    (place : Location) : (h.inDirectory place).spawn request
      = (h.spawn request).map fun child => (child.1, child.2.inDirectory place) := by
  unfold spawn
  rw [start_inDirectory h hrequest place]
  split_ifs
  · rfl
  · rcases h.start request with reason | ended <;> rfl

/-- The shell's process itself moves to the same place from anywhere. -/
theorem changeDirectory_inDirectory (h : Host) {path : Path} (hpath : path.isAbsolute = true)
    (place : Location) : (h.inDirectory place).changeDirectory path = h.changeDirectory path := by
  have hlocate : (h.inDirectory place).world.files.locate (h.inDirectory place).directory path
      = h.world.files.locate h.directory path := FileSystem.locate_of_absolute hpath ..
  unfold changeDirectory
  rw [hlocate]
  rfl

theorem wait_inDirectory (h : Host) (pid : Nat) (place : Location) :
    (h.inDirectory place).wait pid
      = (h.wait pid).map fun ended => (ended.1, ended.2.inDirectory place) := by
  have hchild : (h.inDirectory place).child? pid = h.child? pid := rfl
  unfold wait
  rw [hchild]
  rcases h.child? pid with _ | child <;> rfl

end Host

/-! ### Built-in commands -/

namespace Builtin

variable {io : Streams} {sh : Shell}

/-- A session goes to the same place, and so does its process. -/
theorem goTo_inDirectory (h : sh.session.directory.isAbsolute = true) (target : String)
    (place : Location) : goTo (sh.inDirectory place) target = goTo sh target := by
  have hcanonical : (sh.inDirectory place).host.world.files.canonicalize
      (sh.inDirectory place).host.directory (sh.session.directory.join (Path.ofString target))
        = sh.host.world.files.canonicalize sh.host.directory
          (sh.session.directory.join (Path.ofString target)) :=
    FileSystem.canonicalize_start_of_absolute (Path.isAbsolute_join h _) ..
  unfold goTo
  dsimp only
  rw [show (sh.inDirectory place).session = sh.session from rfl, hcanonical]
  rcases sh.host.world.files.canonicalize sh.host.directory _ with cause | found
  · rfl
  · -- The path of what is found starts at the root, and the process moves there from anywhere.
    have hmoves : (sh.inDirectory place).host.changeDirectory found.path
        = sh.host.changeDirectory found.path :=
      sh.host.changeDirectory_inDirectory found.isAbsolute_path place
    simp only [hmoves]

end Builtin

/-! ### Programs -/

namespace ProgramCommand

variable {sh : Shell} {request : Launch}

theorem program?_inDirectory (h : sh.session.directory.isAbsolute = true) (c : ProgramCommand)
    (place : Location) : c.program? (sh.inDirectory place) = c.program? sh :=
  Lookup.find_of_absolute h ..

theorem asks_inDirectory (h : sh.session.directory.isAbsolute = true) {c : ProgramCommand}
    {io : Streams} (place : Location) :
    c.Asks io (sh.inDirectory place) request ↔ c.Asks io sh request := by
  have hprogram := c.program?_inDirectory h place
  exact ⟨fun hasks => ⟨hprogram ▸ hasks.found, hasks.flushed⟩,
    fun hasks => ⟨hprogram ▸ hasks.found, hasks.flushed⟩⟩

end ProgramCommand

/-! ### Lines -/

namespace Shell

variable {sh : Shell} {line : String} {io : Streams} {c : StartedCommand}

/-- Two shells whose sessions are in one directory, which starts at the root, and of which nothing
    differs but where their processes are. -/
def SameSession (sh sh' : Shell) : Prop :=
  sh.session.directory.isAbsolute = true ∧ ∃ place, sh' = sh.inDirectory place

/-- **The directory of the process** makes no difference to the steps of commands. -/
theorem launching_sameSession : Launching SameSession Eq where
  session := by
    rintro sh _ ⟨-, place, rfl⟩
    rfl
  files := by
    rintro sh _ ⟨-, place, rfl⟩
    rfl
  openIn := by
    rintro sh _ ⟨habsolute, place, rfl⟩ r files
    exact Redirection.openIn_of_absolute habsolute ..
  withFiles := by
    rintro sh _ ⟨habsolute, place, rfl⟩ files
    exact ⟨habsolute, place, rfl⟩
  readDirectory := by
    rintro sh _ ⟨habsolute, place, rfl⟩ path
    exact FileSystem.readDirectory_of_absolute (Path.isAbsolute_join habsolute path) ..
  goTo := by
    rintro sh _ ⟨habsolute, place, rfl⟩ target
    rw [Builtin.goTo_inDirectory habsolute]
    rcases hgo : Builtin.goTo sh target with failure | moved
    · exact .error failure
    · -- Both processes are where the session is now.
      obtain ⟨found, host, -, -, rfl⟩ := Builtin.goTo_eq_ok.1 hgo
      exact .ok ⟨found.isAbsolute_path, _, rfl⟩
  reap := by
    rintro sh _ ⟨habsolute, place, rfl⟩
    exact ⟨habsolute, place, rfl⟩
  leave := by
    rintro sh _ ⟨habsolute, place, rfl⟩
    exact ⟨habsolute, place, rfl⟩
  complain := by
    rintro sh _ ⟨habsolute, place, rfl⟩ text
    exact ⟨habsolute, place, rfl⟩
  write := by
    rintro sh _ io _ ⟨habsolute, place, rfl⟩ rfl bytes
    exact ⟨rfl, rfl, habsolute, place, rfl⟩
  flush := by
    rintro sh _ io _ ⟨-, place, rfl⟩ rfl
    rfl
  streams := by
    rintro io _ rfl opened
    rfl
  restore := by
    rintro before _ after _ rfl rfl opened
    rfl
  skipLine := by
    rintro sh _ io _ ⟨habsolute, place, rfl⟩ rfl
    exact ⟨rfl, rfl, habsolute, place, rfl⟩
  passOn := by
    rintro sh _ ⟨-, place, rfl⟩
    rfl
  program? := by
    rintro sh _ ⟨habsolute, place, rfl⟩ c
    exact c.program?_inDirectory habsolute place
  spawn := by
    rintro sh _ io _ ⟨habsolute, place, rfl⟩ rfl program arguments
    have hdirectory : (sh.launch io program arguments).directory.isAbsolute = true := habsolute
    have hspawn := sh.host.spawn_inDirectory hdirectory place
    exact hspawn ▸ .of_map _ fun _ _ => ⟨rfl, habsolute, place, rfl⟩
  wait := by
    rintro sh _ ⟨habsolute, place, rfl⟩ pid
    have hwait := sh.host.wait_inDirectory pid place
    exact hwait ▸ .of_map _ fun _ _ => ⟨rfl, habsolute, place, rfl⟩
  record := by
    rintro sh _ ⟨habsolute, place, rfl⟩ c pid
    exact ⟨habsolute, place, rfl⟩

/-- The line asks the system for a child: to run a program, or to show the manual. -/
inductive Requests (sh : Shell) (line : String) (io : Streams) : Launch → Prop
  /-- The command is no built-in one. -/
  | program {c : StartedCommand} {request : Launch} : sh.Starts line c →
      c.name ∉ Builtin.all.map Builtin.name →
      c.program.Asks (c.opened.streams io) (sh.withFiles c.files) request →
      Requests sh line io request
  /-- The command is `help`, with arguments that it accepts. -/
  | pager {c : StartedCommand} : sh.Starts line c → c.name = Builtin.help.name →
      Signature.Free c.arguments → Streams.flush {} (sh.withFiles c.files) = .ok () →
      Requests sh line io (Builtin.pagerRequest (c.opened.streams io) (sh.withFiles c.files))

/-- **One line** does the same wherever the shell's process is, and the directory of the session
    still starts at the root then; -/
theorem execute_inDirectory (habsolute : sh.session.directory.isAbsolute = true) (line : String)
    (io : Streams) (place : Location) :
    (sh.execute line io).shell.session.directory.isAbsolute = true ∧ ∃ place',
      (sh.inDirectory place).execute line io = (sh.execute line io).inDirectory place' := by
  have hsame : sh.SameSession (sh.inDirectory place) := ⟨habsolute, place, rfl⟩
  obtain ⟨hresult, hstreams, hafter, place', hshell⟩ :=
    launching_sameSession.execute hsame (Eq.refl io) line
  refine ⟨hafter, place', ?_⟩
  rw [Outcome.inDirectory, ← hshell, ← hresult, hstreams]

theorem Requests.inDirectory (habsolute : sh.session.directory.isAbsolute = true)
    {request : Launch} (h : sh.Requests line io request) (place : Location) :
    (sh.inDirectory place).Requests line io request := by
  have hsame : sh.SameSession (sh.inDirectory place) := ⟨habsolute, place, rfl⟩
  cases h with
  | @program c _ hstarts hforeign hasks =>
    have hsession : (sh.withFiles c.files).session.directory.isAbsolute = true := habsolute
    exact .program (launching_sameSession.starts hsame hstarts) hforeign
      ((ProgramCommand.asks_inDirectory hsession place).2 hasks)
  | pager hstarts hname hfree hflush =>
    exact .pager (launching_sameSession.starts hsame hstarts) hname hfree hflush

/-- and it asks for the same children. -/
theorem requests_inDirectory (habsolute : sh.session.directory.isAbsolute = true)
    {request : Launch} (place : Location) :
    (sh.inDirectory place).Requests line io request ↔ sh.Requests line io request := by
  have hmoved : (sh.inDirectory place).session.directory.isAbsolute = true := habsolute
  -- The way back is the same way, to where the process is.
  exact ⟨fun h => h.inDirectory hmoved sh.host.directory, fun h => h.inDirectory habsolute place⟩

/-! ### Runs -/

/-- The shell after lines, each of them run on streams of its own. -/
def afterEach (sh : Shell) : List (String × Streams) → Shell
  | [] => sh
  | (line, io) :: rest => (sh.execute line io).shell.afterEach rest

theorem afterEach_inDirectory (habsolute : sh.session.directory.isAbsolute = true)
    (calls : List (String × Streams)) (place : Location) :
    (sh.afterEach calls).session.directory.isAbsolute = true ∧ ∃ place',
      (sh.inDirectory place).afterEach calls = (sh.afterEach calls).inDirectory place' := by
  induction calls generalizing sh place with
  | nil => exact ⟨habsolute, place, rfl⟩
  | cons call rest ih =>
    obtain ⟨hafter, place', hline⟩ := execute_inDirectory habsolute call.1 call.2 place
    rw [afterEach, afterEach, hline]
    exact ih hafter place'

theorem settle_inDirectory (o : Outcome Failure) (place : Location) :
    settle (o.inDirectory place) = ((settle o).1, (settle o).2.inDirectory place) := by
  obtain ⟨failure | code, io, sh⟩ := o
  · unfold settle
    simp only [Outcome.inDirectory]
    split_ifs <;> rfl
  · rfl

theorem settle_session (o : Outcome Failure) : (settle o).2.session = o.shell.session := by
  unfold settle
  split
  · rfl
  · split_ifs <;> rfl

/-- The lines of a script do the same too, and end it in the same way. -/
theorem runLines_inDirectory (habsolute : sh.session.directory.isAbsolute = true)
    (lines : List Bytes) (place : Location) :
    ∃ place', (sh.inDirectory place).runLines lines
      = ((sh.runLines lines).1, (sh.runLines lines).2.inDirectory place') := by
  induction lines generalizing sh place with
  | nil => exact ⟨place, rfl⟩
  | cons line rest ih =>
    have hreaped : sh.reap.1.session.directory.isAbsolute = true := habsolute
    obtain ⟨hkept, place', hline⟩ := execute_inDirectory hreaped line.toStringLossy {} place
    have hrun : (sh.inDirectory place).runLine line
        = ((sh.runLine line).1, (sh.runLine line).2.inDirectory place') := by
      show settle ((sh.reap.1.inDirectory place).execute line.toStringLossy {}) = _
      rw [hline, settle_inDirectory]
      rfl
    have hafter : (sh.runLine line).2.session.directory.isAbsolute = true := by
      rw [runLine, settle_session]
      exact hkept
    unfold runLines
    rw [hrun]
    rcases hverdict : sh.runLine line with ⟨failure | ⟨⟩, after⟩
    · exact ⟨place', rfl⟩
    · rw [hverdict] at hafter
      have hstops : (after.inDirectory place').stops = after.stops := rfl
      simp only [hstops]
      split_ifs
      · exact ⟨place', rfl⟩
      · exact ih hafter place'

/-- **The directory of the session decides** what paths lead to, if it starts at the root. Take two
    shells of which nothing differs but where their processes are. Whatever lines are run in both,
    on any streams,

* nothing else differs then, and the directory of the session still starts at the root;
* the next line has the same result in both, uses its streams in the same way, and does the same to
  the session and the system;
* it asks the system for the same children.

The same holds of the scripts that are run in both, and of how they end. -/
theorem session_directory_decides (habsolute : sh.session.directory.isAbsolute = true)
    (place : Location) :
    (∀ calls : List (String × Streams),
      let here := sh.afterEach calls
      let there := (sh.inDirectory place).afterEach calls
      here.session.directory.isAbsolute = true ∧
      (∃ place', there = here.inDirectory place') ∧
      ∀ line io,
        (∃ place', there.execute line io = (here.execute line io).inDirectory place') ∧
        ∀ request, there.Requests line io request ↔ here.Requests line io request) ∧
    (∀ script : Supply, ∃ place', (sh.inDirectory place).runScript script
      = ((sh.runScript script).1, (sh.runScript script).2.inDirectory place')) := by
  refine ⟨fun calls => ?_, fun script => ?_⟩
  · obtain ⟨hhere, place', hthere⟩ := afterEach_inDirectory habsolute calls place
    refine ⟨hhere, ⟨place', hthere⟩, fun line io => ?_⟩
    rw [hthere]
    exact ⟨(execute_inDirectory hhere line io place').2,
      fun request => requests_inDirectory hhere place'⟩
  · obtain ⟨place', hlines⟩ := runLines_inDirectory habsolute (linesOf script).1 place
    refine ⟨place', ?_⟩
    unfold runScript
    simp only [hlines]
    rcases sh.runLines (linesOf script).1 with ⟨_ | verdict, after⟩
    · rcases (linesOf script).2 with _ | failure <;> rfl
    · rfl

end Shell

namespace Sample

/-- With the process in another directory, the shell copies the same file. -/
theorem cat_from_elsewhere : shell.session.directory.isAbsolute = true ∧ ∃ place,
    (shell.inDirectory here).execute "/cat < a" {}
      = (shell.execute "/cat < a" {}).inDirectory place := by
  have habsolute : shell.session.directory.isAbsolute = true := by decide
  obtain ⟨hruns, -⟩ := Shell.session_directory_decides habsolute here
  obtain ⟨-, -, hlines⟩ := hruns []
  exact ⟨habsolute, (hlines "/cat < a" {}).1⟩

end Sample

end CommandShell

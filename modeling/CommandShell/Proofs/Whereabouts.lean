import CommandShell.Machine
import CommandShell.Proofs.CanonicalPaths
import CommandShell.Proofs.WholeRuns

namespace CommandShell

/-!
# Whereabouts — the directory of a session, kept three times

The variable `PWD`, the session and the shell's process each have a directory. A `cd` that succeeds
sets all three to the same one, and nothing else touches any of them:

* `Whereabouts` — the three; `Whereabouts.of` is all of them at one location;
* `Shell.GoesTo` — a line that is a `cd` that succeeds, and where it leads;
* `Shell.execute_whereabouts` — what one line does to the three;
* `Shell.Lives` — a session over time, with the locations that it went to;
* `Shell.lives_afterLines`, `Shell.lives_converse` — scripts and dialogues are such sessions;
* `Shell.whereabouts_coherent` — the three over time.
-/

/-- Where a shell says that it is. -/
structure Whereabouts where
  /-- The variable `PWD`. -/
  pwd : Option Bytes
  /-- The directory of the session. -/
  session : Path
  /-- The directory of the shell's process. -/
  process : Location
deriving DecidableEq

/-- The three at one location. -/
def Whereabouts.of (found : Location) : Whereabouts := ⟨some found.path.bytes, found.path, found⟩

namespace Shell

variable {sh here : Shell} {line : String} {io : Streams} {found : Location}
  {visited : List Location}

/-- Where the shell says that it is. -/
def whereabouts (sh : Shell) : Whereabouts :=
  ⟨Variables.get? sh.session.vars "PWD", sh.session.directory, sh.host.directory⟩

/-! ### One line -/

/-- The shell after it went to a location: the session, `PWD` and the process are there. -/
def movedTo (sh : Shell) (found : Location) : Shell :=
  ({ session := { sh.session with directory := found.path }
     host := { sh.host with directory := found } } : Shell).setVariable
    (Bytes.ofString "PWD") found.path.bytes

theorem movedTo_whereabouts (sh : Shell) (found : Location) :
    (sh.movedTo found).whereabouts = .of found := by
  have hpwd : Variables.get? (Variables.set sh.session.vars (Bytes.ofString "PWD")
      found.path.bytes) "PWD" = some found.path.bytes := OrderedMap.get?_insert_self ..
  rw [whereabouts, Whereabouts.of, ← hpwd]
  rfl

/-- The line is a `cd` with an operand, and that succeeds: read from the session's directory, the
    operand leads to the location, and the process can move to its path. The files are those that
    the directives of the line left. -/
def GoesTo (sh : Shell) (line : String) (found : Location) : Prop :=
  ∃ c target host, sh.Starts line c ∧ c.name = Builtin.cd.name ∧
    Builtin.cd.read c.arguments = .accepted [target] ∧
    c.files.canonicalize sh.host.directory (sh.session.directory.join (Path.ofString target))
      = .ok found ∧
    (sh.host.withFiles c.files).changeDirectory found.path = .ok host

/-- What keeps the session keeps the three. -/
theorem Keeps.whereabouts_eq {after : Shell} (h : sh.Keeps after) :
    after.whereabouts = sh.whereabouts := by
  rw [whereabouts, whereabouts, h.vars, h.directory, h.process]

/-- A `cd` that succeeds leaves the three where it leads, which is a canonical path. -/
theorem GoesTo.movesTo (h : sh.GoesTo line found) : ∃ moved, sh.MovesTo line moved ∧
    moved.whereabouts = .of found ∧
    ∀ start, moved.host.world.files.canonicalize start found.path = .ok found := by
  obtain ⟨c, target, host, hstarts, hname, hread, hfound, hmoves⟩ := h
  obtain ⟨rfl, hcanonical⟩ :=
    Host.changeDirectory_canonical (h := sh.host.withFiles c.files) hfound hmoves
  refine ⟨_, ⟨c, target, hstarts, hname, hread,
    Builtin.goTo_eq_ok.2 ⟨found, _, hfound, hmoves, rfl⟩⟩, ?_, hcanonical⟩
  exact movedTo_whereabouts (sh.withFiles c.files) found

/-- A line that goes somewhere is such a `cd`. -/
theorem MovesTo.goesTo {moved : Shell} (h : sh.MovesTo line moved) :
    ∃ found, sh.GoesTo line found := by
  obtain ⟨c, target, hstarts, hname, hread, hgo⟩ := h
  obtain ⟨found, host, hfound, hmoves, -⟩ := Builtin.goTo_eq_ok.1 hgo
  exact ⟨found, c, target, host, hstarts, hname, hread, hfound, hmoves⟩

/-- After a `cd` that succeeds, the three are where it leads. -/
theorem execute_of_goesTo (h : sh.GoesTo line found) (io : Streams) :
    (sh.execute line io).shell.whereabouts = .of found ∧
      ∀ start, (sh.execute line io).shell.host.world.files.canonicalize start found.path
        = .ok found := by
  obtain ⟨moved, hmoves, hwhere, hcanonical⟩ := h.movesTo
  obtain ⟨_, _, -, -, -, -, hshell, -⟩ := execute_of_movesTo hmoves io
  rw [hshell]
  exact ⟨hwhere, hcanonical⟩

/-- After any other line they are where they were. -/
theorem execute_of_not_goesTo (h : ∀ found, ¬ sh.GoesTo line found) (io : Streams) :
    (sh.execute line io).shell.whereabouts = sh.whereabouts := by
  rcases execute_effect sh line io with hmoves | ⟨files, -, hafter⟩ | ⟨-, -, hkeeps⟩
  · obtain ⟨found, hgoes⟩ := hmoves.goesTo
    exact absurd hgoes (h found)
  · rw [hafter]
    rfl
  · exact hkeeps.whereabouts_eq

/-- A `cd` with an operand succeeds exactly if it goes somewhere. -/
theorem Starts.goesTo_iff {c : StartedCommand} {target : String} (h : sh.Starts line c)
    (hname : c.name = Builtin.cd.name) (hread : Builtin.cd.read c.arguments = .accepted [target])
    (io : Streams) :
    (∃ found, sh.GoesTo line found) ↔
      (Builtin.cd.perform [target] (c.opened.streams io) (sh.withFiles c.files)).result
        = .ok 0 := by
  constructor
  · rintro ⟨found, hgoes⟩
    obtain ⟨moved, hmoves, -⟩ := hgoes.movesTo
    obtain ⟨c', target', hstarts', -, hread', hok, -⟩ := execute_of_movesTo hmoves io
    obtain rfl := h.unique hstarts'
    rw [hread] at hread'
    cases hread'
    exact hok
  · -- A `cd` that stops anywhere fails, so one that succeeds got through.
    intro hok
    rcases hgo : Builtin.goTo (sh.withFiles c.files) target with failure | moved
    · have hperform : (Builtin.cd.perform [target] (c.opened.streams io)
          (sh.withFiles c.files)).result = .error failure := by
        show (Builtin.changeDirectory (some target) _ _).result = _
        simp only [Builtin.changeDirectory, hgo]
      rw [hperform] at hok
      cases hok
    · exact MovesTo.goesTo ⟨c, target, h, hname, hread, hgo⟩

/-! ### A session over time -/

/-- A session over time: lines on any streams, and what happens between them. The list holds the
    locations that lines went to, the last one first. -/
inductive Lives (sh : Shell) : List Location → Shell → Prop
  /-- Nothing has happened yet. -/
  | start : Lives sh [] sh
  /-- A line goes somewhere. -/
  | goes {here : Shell} {visited : List Location} {line : String} {found : Location}
      (io : Streams) : Lives sh visited here → here.GoesTo line found →
      Lives sh (found :: visited) (here.execute line io).shell
  /-- A line does not. -/
  | stays {here : Shell} {visited : List Location} {line : String} (io : Streams) :
      Lives sh visited here → (∀ found, ¬ here.GoesTo line found) →
      Lives sh visited (here.execute line io).shell
  /-- Another variable than `PWD` is set. -/
  | assigns {here : Shell} {visited : List Location} {name : Bytes} (value : Bytes) :
      Lives sh visited here → name ≠ Bytes.ofString "PWD" →
      Lives sh visited (here.setVariable name value)
  /-- The jobs that have ended are dropped. -/
  | reaps {here : Shell} {visited : List Location} :
      Lives sh visited here → Lives sh visited here.reap.1
  /-- Other processes go on: the files, the terminal, the children and the time are others. -/
  | elapses {here : Shell} {visited : List Location} (world : World) (children : List Child)
      (clock : Nat) : Lives sh visited here →
      Lives sh visited { here with host := { here.host with world, children, clock } }

/-- The three are where the last `cd` that succeeded led, and where they were before the first. -/
theorem Lives.whereabouts_eq (h : Lives sh visited here) :
    here.whereabouts = (visited.head?.map Whereabouts.of).getD sh.whereabouts := by
  -- A line that goes somewhere sets all three anew; no other step touches them.
  induction h with
  | start => rfl
  | goes io _ hgoes _ => exact (execute_of_goesTo hgoes io).1
  | stays io _ hstays ih => rw [execute_of_not_goesTo hstays io, ih]
  | @assigns here visited name value _ hname ih =>
    have hpwd : Variables.get? (Variables.set here.session.vars name value) "PWD"
        = Variables.get? here.session.vars "PWD" :=
      OrderedMap.get?_insert_of_ne (Ne.symm hname) ..
    rw [← ih, whereabouts, whereabouts, ← hpwd]
    rfl
  | reaps _ ih => exact ih
  | elapses _ _ _ _ ih => exact ih

/-- A line is lived through, wherever it goes. -/
theorem Lives.execute (h : Lives sh visited here) (line : String) (io : Streams) :
    ∃ visited', Lives sh visited' (here.execute line io).shell := by
  by_cases hgoes : ∃ found, here.GoesTo line found
  · obtain ⟨found, hgoes⟩ := hgoes
    exact ⟨found :: visited, .goes io h hgoes⟩
  · exact ⟨visited, .stays io h fun found hfound => hgoes ⟨found, hfound⟩⟩

/-- Whatever happens in a session is lived through. -/
theorem lasting_lives (sh : Shell) : Lasting fun here => ∃ visited, Lives sh visited here where
  executes line io := fun ⟨_, h⟩ => h.execute line io
  reaps := fun ⟨visited, h⟩ => ⟨visited, h.reaps⟩
  elapses world children clock := fun ⟨visited, h⟩ => ⟨visited, h.elapses world children clock⟩

/-- **Scripts** are lived through line by line. -/
theorem lives_afterLines (sh : Shell) (lines : List Bytes) :
    ∃ visited, Lives sh visited (sh.afterLines lines) :=
  (lasting_lives sh).afterLines ⟨[], .start⟩ lines

/-- **Dialogues** are lived through whatever is typed. -/
theorem lives_converse (sh : Shell) : ∃ visited, Lives sh visited sh.converse.2 :=
  (lasting_lives sh).converse ⟨[], .start⟩

/-- **The directory of a session.** A `cd` that succeeds sets `PWD`, the directory of the session
    and that of the process to the same absolute and canonical path: what its operand leads to, read
    from the directory of the session before. That it succeeds means that the built-in command does,
    on the files that the directives of its line left. Any other line leaves all three as they were,
    whatever it is and whatever comes of it. So over the whole life of a session, if nobody else
    sets `PWD`, the three are where the last such `cd` led, and before the first they are as at the
    start. -/
theorem whereabouts_coherent :
    (∀ (sh : Shell) (line : String) (io : Streams) (found : Location), sh.GoesTo line found →
      (sh.execute line io).shell.whereabouts = .of found ∧ found.path.isAbsolute = true ∧
      ∀ start, (sh.execute line io).shell.host.world.files.canonicalize start found.path
        = .ok found) ∧
    (∀ (sh : Shell) (line : String) (io : Streams), (∀ found, ¬ sh.GoesTo line found) →
      (sh.execute line io).shell.whereabouts = sh.whereabouts) ∧
    (∀ (sh : Shell) (line : String) (io : Streams) (c : StartedCommand) (target : String),
      sh.Starts line c → c.name = Builtin.cd.name →
      Builtin.cd.read c.arguments = .accepted [target] →
      ((∃ found, sh.GoesTo line found) ↔
        (Builtin.cd.perform [target] (c.opened.streams io) (sh.withFiles c.files)).result
          = .ok 0)) ∧
    (∀ (sh : Shell) (visited : List Location) (here : Shell), Lives sh visited here →
      here.whereabouts = (visited.head?.map Whereabouts.of).getD sh.whereabouts) := by
  refine ⟨fun sh line io found hgoes => ?_, fun sh line io hstays => ?_,
    fun sh line io c target hstarts hname hread => ?_, fun sh visited here hlives => ?_⟩
  · obtain ⟨hwhere, hcanonical⟩ := execute_of_goesTo hgoes io
    exact ⟨hwhere, found.isAbsolute_path, hcanonical⟩
  · exact execute_of_not_goesTo hstays io
  · exact hstarts.goesTo_iff hname hread io
  · exact hlives.whereabouts_eq

end Shell

/-! ### A directory that is entered -/

namespace Sample

/-- A root directory with another one in it. -/
def nested : FileSystem := ⟨#[.directory [(Bytes.ofString "d", 1)], .directory []]⟩

/-- A shell in the root directory. -/
def outside : Shell := ⟨{ directory := .root }, Machine.host nested .root⟩

/-- Where the other directory is. -/
def inside : Location := Location.root.child (Bytes.ofString "d") 1

theorem straight_inside : nested.Straight inside :=
  .child .root rfl rfl rfl (by decide) (by decide) (by decide) (fun _ h => by cases h)

theorem goesTo_inside : outside.GoesTo "cd d" inside := by
  have hfound : nested.canonicalize .root (Path.root.join (Path.ofString "d")) = .ok inside :=
    straight_inside.canonicalize rfl (by decide) (by decide) .root
  have hmoves : (outside.host.withFiles nested).changeDirectory inside.path
      = .ok { outside.host.withFiles nested with directory := inside } :=
    Host.changeDirectory_eq_ok.2
      ⟨by decide, inside, straight_inside.locate rfl (by decide) .root, rfl, rfl⟩
  exact ⟨⟨"cd", ["d"], [], false, nested, {}⟩, "d", _, ⟨by decide +kernel, .nil⟩, rfl, rfl,
    hfound, hmoves⟩

/-- What is entered is where the three are then. -/
theorem entered_directory : outside.GoesTo "cd d" inside ∧
    ∃ here, Shell.Lives outside [inside] here ∧ here.whereabouts = .of inside :=
  have hlives := Shell.Lives.goes {} Shell.Lives.start goesTo_inside
  ⟨goesTo_inside, _, hlives, Shell.whereabouts_coherent.2.2.2 outside [inside] _ hlives⟩

end Sample

end CommandShell

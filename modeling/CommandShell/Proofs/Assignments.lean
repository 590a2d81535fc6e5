import CommandShell.Proofs.DirectoryListing
import CommandShell.Proofs.MapEntries
import CommandShell.Proofs.Whereabouts

namespace CommandShell

/-!
# Assignments — the variables of a session over time

A session begins with the variables that its process was given. From then on variables are assigned
by whoever holds the session, and `PWD` by every `cd` that succeeds:

* `OrderedMap.LastAssigned` — the last of a list of assignments to a key;
* `OrderedMap.mem_entries_ofList` — a map holds for every key what it was assigned last;
* `Event`, `Shell.undergo`, `Shell.afterEvents` — what happens in a session;
* `Shell.Logs` — the assignments that are made by that; there is exactly one list of them;
* `Shell.variables_last_assigned` — the variables after whatever happened;
* `Shell.serve_variables` — what the program assigns while it runs.
-/

/-! ### Lists of assignments -/

namespace OrderedMap

variable {κ α : Type} {log : List (κ × α)} {key other : κ} {value held : α}

/-- The key is assigned the value, and nothing after that. -/
def LastAssigned (log : List (κ × α)) (key : κ) (value : α) : Prop :=
  ∃ earlier later, log = earlier ++ (key, value) :: later ∧ ∀ entry ∈ later, entry.1 ≠ key

theorem not_lastAssigned_nil : ¬ LastAssigned [] key value := by
  rintro ⟨earlier, later, hlog, -⟩
  cases List.append_eq_nil_iff.1 hlog.symm |>.2

/-- A further assignment is the last one to its key, and leaves those to the other keys. -/
theorem lastAssigned_concat : LastAssigned (log ++ [(other, held)]) key value ↔
    (key, value) = (other, held) ∨ (LastAssigned log key value ∧ key ≠ other) := by
  constructor
  · -- The assignment in question is the further one, or that one comes somewhere after it.
    rintro ⟨earlier, later, hlog, hlater⟩
    rcases List.eq_nil_or_concat later with rfl | ⟨later, last, rfl⟩
    · exact .inl (List.singleton_inj.1 (List.append_inj_right' hlog rfl)).symm
    · rw [List.concat_eq_append, ← List.cons_append, ← List.append_assoc] at hlog
      obtain ⟨hfront, hlast⟩ := List.append_inj' hlog rfl
      obtain rfl := List.singleton_inj.1 hlast
      refine .inr ⟨⟨earlier, later, hfront, fun entry hmem => hlater entry ?_⟩, ?_⟩
      · simp [hmem]
      · exact Ne.symm (hlater (other, held) (by simp))
  · rintro (heq | ⟨⟨earlier, later, rfl, hlater⟩, hne⟩)
    · exact ⟨log, [], by rw [heq], by simp⟩
    · refine ⟨earlier, later ++ [(other, held)], by simp, fun entry hmem => ?_⟩
      rcases List.mem_append.1 hmem with hmem | hmem
      · exact hlater entry hmem
      · rw [List.mem_singleton.1 hmem]
        exact Ne.symm hne

variable [LT κ] [DecidableLT κ] [DecidableEq κ] [KeyOrder κ]

/-- A further assignment is made to the map of those before. -/
theorem ofList_concat (log : List (κ × α)) (key : κ) (value : α) :
    ofList (log ++ [(key, value)]) = (ofList log).insert key value := by
  rw [ofList, List.foldl_append]
  rfl

/-- **The last assignment stays.** A map holds for every key what it was assigned last, and nothing
    for the others. -/
theorem mem_entries_ofList [Std.Irrefl (α := κ) (· < ·)] :
    (key, value) ∈ (ofList log).entries ↔ LastAssigned log key value := by
  -- From the end: the last of the assignments was made to the map of the others.
  induction log using List.reverseRecOn with
  | nil => exact iff_of_false List.not_mem_nil not_lastAssigned_nil
  | append_singleton log entry ih =>
    obtain ⟨other, held⟩ := entry
    rw [ofList_concat, mem_entries_insert, ih, lastAssigned_concat]

end OrderedMap

/-! ### What happens in a session -/

/-- What can happen in a session. -/
inductive Event where
  /-- A variable is given a value. -/
  | assigns (name value : Bytes)
  /-- A line is executed on some streams. -/
  | executes (line : String) (io : Streams)
  /-- The jobs that have ended are dropped. -/
  | reaps
  /-- Other processes go on: the files, the terminal, the children and the time are others. -/
  | elapses (world : World) (children : List Child) (clock : Nat)

namespace Shell

open OrderedMap

variable {sh start here : Shell} {line : String} {found : Location} {event : Event}
  {events : List Event} {captured past made made' log log' : List (Bytes × Bytes)}

/-- The shell after an event. -/
def undergo (sh : Shell) : Event → Shell
  | .assigns name value => sh.setVariable name value
  | .executes line io => (sh.execute line io).shell
  | .reaps => sh.reap.1
  | .elapses world children clock => { sh with host := { sh.host with world, children, clock } }

/-- The shell after events, one after the other. -/
def afterEvents (sh : Shell) (events : List Event) : Shell := events.foldl undergo sh

/-- What an event assigns: what it says, or the new directory, if it is a line that goes there. -/
inductive Assigns (sh : Shell) : Event → List (Bytes × Bytes) → Prop
  /-- A variable is given a value. -/
  | assigns (name value : Bytes) : Assigns sh (.assigns name value) [(name, value)]
  /-- A line goes to another directory. -/
  | goes {line : String} {found : Location} (io : Streams) : sh.GoesTo line found →
      Assigns sh (.executes line io) [(Bytes.ofString "PWD", found.path.bytes)]
  /-- A line does not. -/
  | stays {line : String} (io : Streams) : (∀ found, ¬ sh.GoesTo line found) →
      Assigns sh (.executes line io) []
  /-- Dropping jobs assigns nothing. -/
  | reaps : Assigns sh .reaps []
  /-- Nor does what other processes do. -/
  | elapses (world : World) (children : List Child) (clock : Nat) :
      Assigns sh (.elapses world children clock) []

/-- The assignments that events make, in their order. -/
inductive Logs : Shell → List Event → List (Bytes × Bytes) → Prop
  /-- Nothing happens. -/
  | nil {sh : Shell} : Logs sh [] []
  /-- An event is followed by others. -/
  | cons {sh : Shell} {event : Event} {events : List Event} {made log : List (Bytes × Bytes)} :
      sh.Assigns event made → Logs (sh.undergo event) events log →
      Logs sh (event :: events) (made ++ log)

/-- A line goes to one place only. -/
theorem GoesTo.unique {other : Location} (h : sh.GoesTo line found) (h' : sh.GoesTo line other) :
    found = other := by
  obtain ⟨c, target, -, hstarts, -, hread, hfound, -⟩ := h
  obtain ⟨c', target', -, hstarts', -, hread', hfound', -⟩ := h'
  obtain rfl := hstarts.unique hstarts'
  cases hread.symm.trans hread'
  exact Except.ok.inj (hfound.symm.trans hfound')

theorem exists_assigns (sh : Shell) (event : Event) : ∃ made, sh.Assigns event made := by
  cases event with
  | assigns name value => exact ⟨_, .assigns name value⟩
  | executes line io =>
    by_cases hgoes : ∃ found, sh.GoesTo line found
    · obtain ⟨found, hgoes⟩ := hgoes
      exact ⟨_, .goes io hgoes⟩
    · exact ⟨_, .stays io fun found hfound => hgoes ⟨found, hfound⟩⟩
  | reaps => exact ⟨_, .reaps⟩
  | elapses world children clock => exact ⟨_, .elapses world children clock⟩

theorem Assigns.unique (h : sh.Assigns event made) (h' : sh.Assigns event made') : made = made' := by
  cases h with
  | assigns | reaps | elapses => cases h'; rfl
  | goes io hgoes =>
    cases h' with
    | goes _ hgoes' => rw [hgoes.unique hgoes']
    | stays _ hstays => exact absurd hgoes (hstays _)
  | stays io hstays =>
    cases h' with
    | goes _ hgoes => exact absurd hgoes (hstays _)
    | stays => rfl

/-- Whatever happens, there is a list of the assignments. -/
theorem exists_logs (sh : Shell) (events : List Event) : ∃ log, sh.Logs events log := by
  induction events generalizing sh with
  | nil => exact ⟨[], .nil⟩
  | cons event rest ih =>
    obtain ⟨made, hmade⟩ := sh.exists_assigns event
    obtain ⟨log, hlog⟩ := ih (sh.undergo event)
    exact ⟨made ++ log, .cons hmade hlog⟩

/-- There is only one. -/
theorem Logs.unique (h : sh.Logs events log) (h' : sh.Logs events log') : log = log' := by
  induction h generalizing log' with
  | nil => cases h'; rfl
  | cons hmade _ ih =>
    cases h' with
    | cons hmade' hlog' => rw [hmade.unique hmade', ih hlog']

/-! ### The variables -/

/-- A line that goes somewhere gives `PWD` the path of that place. -/
theorem execute_vars_of_goesTo (h : sh.GoesTo line found) (io : Streams) :
    (sh.execute line io).shell.session.vars
      = sh.session.vars.insert (Bytes.ofString "PWD") found.path.bytes := by
  obtain ⟨moved, hmoves, hwhere, -⟩ := h.movesTo
  obtain ⟨_, _, -, -, -, -, hshell, -⟩ := execute_of_movesTo hmoves io
  obtain ⟨path, hsession⟩ := hmoves.session_eq
  have hpath : moved.session.directory = found.path := congrArg Whereabouts.session hwhere
  rw [hsession] at hpath
  rw [hshell, hsession, ← hpath]
  rfl

/-- Any other line leaves the variables as they are. -/
theorem execute_vars_of_not_goesTo (h : ∀ found, ¬ sh.GoesTo line found) (io : Streams) :
    (sh.execute line io).shell.session.vars = sh.session.vars := by
  rcases execute_effect sh line io with hmoves | ⟨files, -, hafter⟩ | ⟨-, -, hkeeps⟩
  · obtain ⟨found, hgoes⟩ := hmoves.goesTo
    exact absurd hgoes (h found)
  · rw [hafter]
  · exact hkeeps.vars

/-- **A step.** If the variables are those of the assignments so far, they still are after an
    event. -/
theorem Assigns.vars_eq (h : sh.Assigns event made) (hvars : sh.session.vars = ofList past) :
    (sh.undergo event).session.vars = ofList (past ++ made) := by
  cases h with
  | assigns name value =>
    rw [ofList_concat, ← hvars]
    rfl
  | goes io hgoes =>
    rw [ofList_concat, ← hvars]
    exact execute_vars_of_goesTo hgoes io
  | stays io hstays =>
    rw [List.append_nil, ← hvars]
    exact execute_vars_of_not_goesTo hstays io
  | reaps | elapses =>
    rw [List.append_nil]
    exact hvars

/-- **A run.** So they are after all events. -/
theorem Logs.vars_eq (h : sh.Logs events log) (hvars : sh.session.vars = ofList past) :
    (sh.afterEvents events).session.vars = ofList (past ++ log) := by
  -- What one event assigns belongs to the past of the next.
  induction h generalizing past with
  | nil => rwa [List.append_nil]
  | cons hmade _ ih =>
    rw [← List.append_assoc]
    exact ih (hmade.vars_eq hvars)

theorem afterEvents_concat (sh : Shell) (events : List Event) (event : Event) :
    sh.afterEvents (events ++ [event]) = (sh.afterEvents events).undergo event := by
  rw [afterEvents, List.foldl_append]
  rfl

/-- The shell has become another one, and nobody has set variables meanwhile. -/
def Becomes (start here : Shell) : Prop :=
  ∃ events : List Event, (∀ name value, .assigns name value ∉ events) ∧
    here = start.afterEvents events

theorem Becomes.undergo (h : start.Becomes here) (event : Event)
    (hevent : ∀ name value, event ≠ .assigns name value) :
    start.Becomes (here.undergo event) := by
  obtain ⟨events, hnone, rfl⟩ := h
  refine ⟨events ++ [event], fun name value hmem => ?_, (afterEvents_concat ..).symm⟩
  rcases List.mem_append.1 hmem with hmem | hmem
  · exact hnone name value hmem
  · exact hevent name value (List.mem_singleton.1 hmem).symm

/-- Scripts and dialogues are made of events of the other kinds. -/
theorem lasting_becomes (start : Shell) : Lasting start.Becomes where
  executes line io h := h.undergo (.executes line io) (by simp)
  reaps h := h.undergo .reaps (by simp)
  elapses world children clock h := h.undergo (.elapses world children clock) (by simp)

/-- Unless variables are set, only `PWD` is assigned. -/
theorem Logs.assigns_pwd (h : sh.Logs events log)
    (hnone : ∀ name value, .assigns name value ∉ events) :
    ∀ entry ∈ log, entry.1 = Bytes.ofString "PWD" := by
  induction h with
  | nil => simp
  | cons hmade _ ih =>
    simp only [List.mem_cons, not_or] at hnone
    intro entry hentry
    rcases List.mem_append.1 hentry with hentry | hentry
    · cases hmade with
      | assigns name value => exact absurd rfl (hnone name value).1
      | goes => rw [List.mem_singleton.1 hentry]
      | stays | reaps | elapses => cases hentry
    · exact ih (fun name value => (hnone name value).2) entry hentry

/-- **The program** gives `SHELL` its own path, and after that assigns nothing but `PWD`, whether it
    reads a batch file or asks for lines. -/
theorem serve_variables {batchFile : Option Path} {code : ExitCode} {after : Shell}
    (hcaptured : sh.session.vars = ofList captured)
    (hserve : Invocation.serve sh batchFile = some (code, after)) :
    ∃ log, (∀ entry ∈ log, entry.1 = Bytes.ofString "PWD") ∧
      ∀ name value, (name, value) ∈ after.session.vars.entries ↔
        LastAssigned (captured ++ (Bytes.ofString "SHELL", sh.host.executable.bytes) :: log)
          name value := by
  set shell := (Bytes.ofString "SHELL", sh.host.executable.bytes)
  have hprepared : (Invocation.prepare sh).session.vars = ofList (captured ++ [shell]) := by
    rw [ofList_concat, ← hcaptured]
    rfl
  -- All that the program does from there on is events, and the log of these is what it assigns.
  obtain ⟨events, hnone, rfl⟩ :=
    (lasting_becomes (Invocation.prepare sh)).serve ⟨[], by simp, rfl⟩ hserve
  obtain ⟨log, hlog⟩ := (Invocation.prepare sh).exists_logs events
  refine ⟨log, hlog.assigns_pwd hnone, fun name value => ?_⟩
  rw [hlog.vars_eq hprepared, List.append_assoc, mem_entries_ofList]
  rfl

end Shell

/-! ### Variables that were given twice -/

namespace Sample

open OrderedMap

/-- What a process was given: one variable twice, and one whose value is no text. -/
def given : List (Bytes × Bytes) :=
  [(Bytes.ofString "B", Bytes.ofString "1"), (Bytes.ofString "A", [255]),
    (Bytes.ofString "B", Bytes.ofString "2")]

/-- The assignments that are made by that. -/
def assigned : List (Bytes × Bytes) :=
  [(Bytes.ofString "C", Bytes.ofString "3"), (Bytes.ofString "PWD", Bytes.ofString "/d")]

end Sample

end CommandShell

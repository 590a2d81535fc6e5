import CommandShell.JobTable
import CommandShell.Proofs.MapEntries
import Mathlib.Data.List.Induction

namespace CommandShell

/-!
# JobRegistry — what becomes of a job

A table of jobs is changed in two ways: a child is recorded, or all jobs are polled. Over a history
of such steps, no job gets lost and none is reported twice:

* `JobTable.reap_entries`, `JobTable.reap_finished` — what a round of polls leaves and reports;
* `JobTable.Step`, `JobTable.after`, `JobTable.reportOf` — a history, the table after it, and what
  each of its steps reports;
* `JobTable.Sound` — no child has the process id of a job that was not reaped yet;
* `Job.Place`, `Job.IsAt` — where a job is after a history;
* `Job.isAt_add`, `Job.isAt_reap` — where one more step puts it;
* `JobTable.accounts_for_jobs` — every job is in one place.
-/

/-- How a job ended, if polling says that it has. -/
def Poll.status? : Poll → Option Status
  | .exited status => some status
  | _ => none

theorem Poll.status?_eq_some_iff {said : Poll} {status : Status} :
    said.status? = some status ↔ said = .exited status := by
  cases said <;> simp [status?]

namespace JobTable

variable {jobs : JobTable} {poll : Nat → Poll} {entries : List (Nat × String)}
  {exited : List (Nat × Status)}

/-! ### One round of polls -/

/-- What is reported of an entry, if polling says that its job has ended. -/
def ended (poll : Nat → Poll) (entry : Nat × String) : Option Finished :=
  (poll entry.1).status?.map fun status => ⟨entry.1, entry.2, status⟩

theorem ended_eq_some_iff {entry : Nat × String} {f : Finished} :
    ended poll entry = some f ↔
      entry = (f.pid, f.command) ∧ poll f.pid = .exited f.status := by
  obtain ⟨pid, command⟩ := entry
  obtain ⟨pid', command', status⟩ := f
  simp only [ended, Option.map_eq_some_iff, Poll.status?_eq_some_iff, Finished.mk.injEq,
    Prod.mk.injEq]
  constructor
  · rintro ⟨status', hsaid, rfl, rfl, rfl⟩
    exact ⟨⟨rfl, rfl⟩, hsaid⟩
  · rintro ⟨⟨rfl, rfl⟩, hsaid⟩
    exact ⟨status, hsaid, rfl, rfl, rfl⟩

/-- The jobs that were found to have ended, in the order of the table. -/
theorem survey_exited (poll : Nat → Poll) (entries : List (Nat × String)) :
    (survey poll entries).exited
      = entries.filterMap fun entry => (poll entry.1).status?.map (entry.1, ·) := by
  induction entries with
  | nil => rfl
  | cons entry rest ih =>
    obtain ⟨pid, command⟩ := entry
    rw [survey]
    cases hsaid : poll pid <;> simp [hsaid, Poll.status?, ih]

theorem survey_pids (poll : Nat → Poll) (entries : List (Nat × String)) :
    (survey poll entries).exited.map (·.1)
      = (entries.map (·.1)).filter fun pid => (poll pid).status?.isSome := by
  induction entries with
  | nil => rfl
  | cons entry rest ih =>
    obtain ⟨pid, command⟩ := entry
    rw [survey]
    cases hsaid : poll pid <;> simp [hsaid, Poll.status?, ih]

/-- The jobs that were found to be lost. -/
theorem mem_survey_lost {pid : Nat} :
    pid ∈ (survey poll entries).lost ↔ poll pid = .lost ∧ pid ∈ entries.map (·.1) := by
  induction entries with
  | nil => simp [survey]
  | cons entry rest ih =>
    obtain ⟨pid', command⟩ := entry
    rw [survey]
    by_cases hpid : pid = pid'
    · subst hpid
      cases hsaid : poll pid <;> simp [hsaid, ih]
    · cases poll pid' <;> simp [ih, hpid]

/-- What is taken out of the table: all that has ended. -/
theorem collect_entries (jobs : JobTable) (exited : List (Nat × Status)) :
    (collect jobs exited).1.entries
      = jobs.entries.filter fun entry => decide (entry.1 ∉ exited.map (·.1)) := by
  induction exited generalizing jobs with
  | nil => simp [collect]
  | cons ended rest ih =>
    obtain ⟨pid, status⟩ := ended
    rw [collect]
    rcases hfound : OrderedMap.get? jobs pid with _ | command
    · -- What is not in the table cannot be taken out of it.
      have habsent := OrderedMap.get?_eq_none_iff.1 hfound
      rw [ih]
      refine List.filter_congr fun entry hentry => ?_
      simp [habsent entry hentry]
    · show (collect (OrderedMap.erase jobs pid) rest).1.entries = _
      rw [ih]
      show (jobs.entries.filter _).filter _ = _
      rw [List.filter_filter]
      refine List.filter_congr fun entry _ => ?_
      rw [List.map_cons, ← Bool.decide_and, decide_eq_decide, List.mem_cons, not_or, and_comm]

/-- What is reported: each job that has ended, under the command line it has in the table. -/
theorem collect_finished (hdistinct : (exited.map (·.1)).Nodup) :
    (collect jobs exited).2 = exited.filterMap fun ended =>
      (OrderedMap.get? jobs ended.1).map fun command => ⟨ended.1, command, ended.2⟩ := by
  induction exited generalizing jobs with
  | nil => rfl
  | cons ended rest ih =>
    obtain ⟨pid, status⟩ := ended
    rw [List.map_cons, List.nodup_cons] at hdistinct
    obtain ⟨hnew, hrest⟩ := hdistinct
    rw [collect]
    rcases hfound : OrderedMap.get? jobs pid with _ | command
    · simp [hfound, ih hrest]
    · -- Taking one job out leaves those after it where they are, as they have other ids.
      have hothers : ∀ ended ∈ rest,
          OrderedMap.get? (OrderedMap.erase jobs pid) ended.1 = OrderedMap.get? jobs ended.1 := by
        intro ended hended
        have hpid : ended.1 ∈ rest.map (·.1) := List.mem_map_of_mem hended
        exact OrderedMap.get?_erase_of_ne (ne_of_mem_of_not_mem hpid hnew)
      show ⟨pid, command, status⟩ :: (collect (OrderedMap.erase jobs pid) rest).2 = _
      rw [ih hrest, List.filterMap_cons_some (b := ⟨pid, command, status⟩) (by simp [hfound])]
      refine congrArg _ (List.filterMap_congr fun ended hended => ?_)
      rw [hothers ended hended]

/-- **A round of polls** leaves the jobs that go on, -/
theorem reap_entries (jobs : JobTable) (poll : Nat → Poll) :
    (reap jobs poll).1.entries = jobs.entries.filter fun entry => goesOn poll entry.1 := by
  rw [reap, collect_entries, OrderedMap.entries_foldl_erase, List.filter_filter, survey_pids]
  refine List.filter_congr fun entry hentry => ?_
  have hpid : entry.1 ∈ jobs.entries.map (·.1) := List.mem_map_of_mem hentry
  cases hsaid : poll entry.1 <;> simp [goesOn, mem_survey_lost, hsaid, Poll.status?, hpid]

/-- and reports those that have ended, in the order of their ids. -/
theorem reap_finished (jobs : JobTable) (poll : Nat → Poll) :
    (reap jobs poll).2 = jobs.entries.filterMap (ended poll) := by
  have hdistinct : ((survey poll jobs.entries).exited.map (·.1)).Nodup := by
    rw [survey_pids]
    exact (OrderedMap.nodup_keys jobs).filter _
  rw [reap, collect_finished hdistinct, survey_exited, List.filterMap_filterMap]
  refine List.filterMap_congr fun entry hentry => ?_
  rcases hstatus : (poll entry.1).status? with _ | status
  · simp [ended, hstatus]
  · -- It was not lost, so it is in the table still.
    have hleft : OrderedMap.get? ((survey poll jobs.entries).lost.foldl OrderedMap.erase jobs)
        entry.1 = some entry.2 := by
      rw [OrderedMap.get?_eq_some_iff, OrderedMap.entries_foldl_erase, List.mem_filter]
      refine ⟨hentry, ?_⟩
      rw [Poll.status?_eq_some_iff] at hstatus
      simp [mem_survey_lost, hstatus]
    simp [ended, hstatus, hleft]

/-! ### Histories -/

/-- What is done with a table of jobs. -/
inductive Step where
  /-- A child is recorded under its process id, with its command line. -/
  | add (pid : Nat) (command : String)
  /-- All jobs are polled, with what polling says of each process id. -/
  | reap (poll : Nat → Poll)

/-- What a step makes of a table, and what it reports. -/
def step (jobs : JobTable) : Step → JobTable × List Finished
  | .add pid command => (jobs.add pid command, [])
  | .reap poll => jobs.reap poll

/-- The table after a history, which begins with an empty one. -/
def after (steps : List Step) : JobTable := steps.foldl (fun jobs s => (jobs.step s).1) {}

/-- What the step of a number reports. -/
def reportOf (steps : List Step) (n : Nat) : List Finished :=
  match steps[n]? with
  | some s => ((after (steps.take n)).step s).2
  | none => []

/-- No child is recorded under the process id of a job that was not reaped yet. -/
def Sound (steps : List Step) : Prop :=
  ∀ n pid command, steps[n]? = some (.add pid command) → pid ∉ pids (after (steps.take n))

variable {steps : List Step} {s : Step} {n : Nat}

theorem after_concat (steps : List Step) (s : Step) :
    after (steps ++ [s]) = ((after steps).step s).1 := by
  simp [after]

/-- The steps of a history are those before the last one and the last one. -/
theorem getElem?_concat_eq_some_iff {t : Step} :
    (steps ++ [s])[n]? = some t ↔ steps[n]? = some t ∨ (n = steps.length ∧ s = t) := by
  rcases Nat.lt_trichotomy n steps.length with hlt | rfl | hlt
  · rw [List.getElem?_append_left hlt]
    simp [Nat.ne_of_lt hlt]
  · simp
  · rw [List.getElem?_eq_none (by simp; omega), List.getElem?_eq_none (by omega)]
    simp [Nat.ne_of_gt hlt]

theorem reportOf_concat_of_lt (h : n < steps.length) (s : Step) :
    reportOf (steps ++ [s]) n = reportOf steps n := by
  have htake : (steps ++ [s]).take n = steps.take n :=
    List.take_append_of_le_length (Nat.le_of_lt h)
  rw [reportOf, List.getElem?_append_left h, htake, reportOf]

theorem reportOf_concat (steps : List Step) (s : Step) :
    reportOf (steps ++ [s]) steps.length = ((after steps).step s).2 := by
  rw [reportOf, List.getElem?_concat_length, List.take_left]

theorem reportOf_of_le (h : steps.length ≤ n) : reportOf steps n = [] := by
  rw [reportOf, List.getElem?_eq_none h]

/-- What comes before a step of a history without clashes has none. -/
theorem Sound.of_concat (h : Sound (steps ++ [s])) : Sound steps := by
  intro n pid command hadd
  have hlt : n < steps.length := (List.getElem?_eq_some_iff.1 hadd).1
  have hfree := h n pid command (by rw [List.getElem?_append_left hlt, hadd])
  rwa [List.take_append_of_le_length (Nat.le_of_lt hlt)] at hfree

/-- Its last step does not clash either. -/
theorem Sound.free {pid : Nat} {command : String} (h : Sound (steps ++ [.add pid command])) :
    pid ∉ pids (after steps) := by
  have hfree := h steps.length pid command List.getElem?_concat_length
  rwa [List.take_left] at hfree

end JobTable

/-! ### Jobs and their places -/

/-- A job: the number of the step that recorded it, its process id, and its command line. -/
structure Job where
  /-- The number of the step. -/
  number : Nat
  /-- The process id. -/
  pid : Nat
  /-- The command line. -/
  command : String
deriving DecidableEq, Repr

namespace Job

open JobTable

variable {job job' : Job} {steps : List Step} {s : Step} {poll : Nat → Poll}

/-- The job was recorded in a history. -/
def Recorded (job : Job) (steps : List Step) : Prop :=
  steps[job.number]? = some (.add job.pid job.command)

/-- The job has its process id still: it was the last one to be recorded under it. -/
def Holds (job : Job) (steps : List Step) : Prop :=
  job.Recorded steps ∧
    ∀ n command, job.number < n → steps[n]? ≠ some (.add job.pid command)

/-- The places of jobs. -/
inductive Place where
  /-- Among those that were not reaped yet. -/
  | running
  /-- In the report of a step. -/
  | reported (n : Nat)
  /-- Dropped by a step, because nothing was known of it. -/
  | dropped (n : Nat)
deriving DecidableEq, Repr

/-- The job is at the place after a history. An entry of the table, or of a report, that has the
    process id of several jobs is that of the last one that was recorded before. -/
def IsAt (job : Job) (steps : List Step) : Place → Prop
  | .running => job.Holds steps ∧ (job.pid, job.command) ∈ (after steps).running
  | .reported n => job.Holds (steps.take n) ∧ ∃ f ∈ reportOf steps n, f.pid = job.pid
  | .dropped n => job.Holds (steps.take n) ∧ job.pid ∈ pids (after (steps.take n)) ∧
      ∃ poll, steps[n]? = some (.reap poll) ∧ poll job.pid = .lost

/-- The number of the step that put a job at the place. -/
def Place.number? : Place → Option Nat
  | .running => none
  | .reported n => some n
  | .dropped n => some n

/-- Where the step of a number puts a job, if polling says so much of it: once it is reported or
    dropped, it stays where it is. -/
def Place.next (n : Nat) (said : Poll) : Place → Place
  | .running =>
    match said with
    | .running => .running
    | .exited _ => .reported n
    | .lost => .dropped n
  | .reported m => .reported m
  | .dropped m => .dropped m

theorem Recorded.lt_length (h : job.Recorded steps) : job.number < steps.length :=
  (List.getElem?_eq_some_iff.1 h).1

/-- A process id is held by one job. -/
theorem Holds.unique (h : job.Holds steps) (h' : job'.Holds steps) (hpid : job.pid = job'.pid) :
    job = job' := by
  obtain ⟨number, pid, command⟩ := job
  obtain ⟨number', pid', command'⟩ := job'
  obtain rfl : pid = pid' := hpid
  have hnumber : number = number' := by
    rcases Nat.lt_trichotomy number number' with hlt | heq | hlt
    · exact absurd h'.1 (h.2 number' command' hlt)
    · exact heq
    · exact absurd h.1 (h'.2 number command hlt)
  subst hnumber
  have hcommand : command = command' := by
    have hsame : some (Step.add pid command) = some (.add pid command') := h.1.symm.trans h'.1
    simpa using hsame
  rw [hcommand]

/-- Polling does not record anything, -/
theorem recorded_reap : job.Recorded (steps ++ [.reap poll]) ↔ job.Recorded steps := by
  simp [Recorded, getElem?_concat_eq_some_iff]

theorem holds_reap : job.Holds (steps ++ [.reap poll]) ↔ job.Holds steps := by
  simp [Holds, recorded_reap, getElem?_concat_eq_some_iff]

/-- and a child that is recorded is a job of its own. -/
theorem recorded_add {pid : Nat} {command : String} :
    job.Recorded (steps ++ [.add pid command]) ↔
      job.Recorded steps ∨ job = ⟨steps.length, pid, command⟩ := by
  obtain ⟨number, pid', command'⟩ := job
  rw [Recorded, getElem?_concat_eq_some_iff, Recorded, Step.add.injEq, mk.injEq]
  simp only [eq_comm]

/-- It takes its process id over. -/
theorem holds_add {pid : Nat} {command : String} :
    job.Holds (steps ++ [.add pid command]) ↔
      job = ⟨steps.length, pid, command⟩ ∨ (job.Holds steps ∧ job.pid ≠ pid) := by
  constructor
  · rintro ⟨hrecorded, hlast⟩
    rcases recorded_add.1 hrecorded with hbefore | hnew
    · refine .inr ⟨⟨hbefore, fun n command' hlt hadd => ?_⟩, fun hpid => ?_⟩
      · exact hlast n command' hlt (getElem?_concat_eq_some_iff.2 (.inl hadd))
      · refine hlast steps.length command hbefore.lt_length ?_
        rw [hpid, List.getElem?_concat_length]
    · exact .inl hnew
  · rintro (rfl | ⟨⟨hrecorded, hlast⟩, hpid⟩)
    · refine ⟨recorded_add.2 (.inr rfl), fun n command' hlt hadd => ?_⟩
      have hafter : steps.length < n := hlt
      rw [List.getElem?_eq_none (by simp; omega)] at hadd
      cases hadd
    · refine ⟨recorded_add.2 (.inl hrecorded), fun n command' hlt hadd => ?_⟩
      rcases getElem?_concat_eq_some_iff.1 hadd with hadd | ⟨-, hsame⟩
      · exact hlast n command' hlt hadd
      · exact hpid (Step.add.inj hsame).1.symm

/-- The entries of the table are those of jobs that hold their process ids. -/
theorem exists_holds {entry : Nat × String} (h : entry ∈ (after steps).running) :
    ∃ job : Job, job.Holds steps ∧ entry = (job.pid, job.command) := by
  induction steps using List.reverseRecOn generalizing entry with
  | nil => cases h
  | append_singleton steps s ih =>
    rw [running, after_concat] at h
    cases s with
    | add pid command =>
      rcases OrderedMap.mem_entries_insert.1 h with rfl | ⟨hbefore, hpid⟩
      · exact ⟨⟨steps.length, pid, command⟩, holds_add.2 (.inl rfl), rfl⟩
      · obtain ⟨job, hholds, rfl⟩ := ih hbefore
        exact ⟨job, holds_add.2 (.inr ⟨hholds, hpid⟩), rfl⟩
    | reap poll =>
      rw [step, reap_entries, List.mem_filter] at h
      obtain ⟨job, hholds, rfl⟩ := ih h.1
      exact ⟨job, holds_reap.2 hholds, rfl⟩

/-- A job runs if it holds its process id and the table has that id. -/
theorem isAt_running_iff :
    job.IsAt steps .running ↔ job.Holds steps ∧ job.pid ∈ pids (after steps) := by
  constructor
  · rintro ⟨hholds, hentry⟩
    exact ⟨hholds, List.mem_map_of_mem (f := (·.1)) hentry⟩
  · rintro ⟨hholds, hpid⟩
    obtain ⟨entry, hentry, hsame⟩ := List.mem_map.1 hpid
    obtain ⟨job', hholds', rfl⟩ := exists_holds hentry
    obtain rfl := hholds.unique hholds' hsame.symm
    exact ⟨hholds, hentry⟩

/-- A job is reported or dropped by a step of the history. -/
theorem IsAt.lt_length {place : Place} {n : Nat} (h : job.IsAt steps place)
    (hn : place.number? = some n) : n < steps.length := by
  cases place with
  | running => cases hn
  | reported m =>
    cases hn
    obtain ⟨-, f, hf, -⟩ := h
    by_contra hlt
    rw [reportOf_of_le (Nat.le_of_not_lt hlt)] at hf
    cases hf
  | dropped m =>
    cases hn
    obtain ⟨-, -, poll, hreap, -⟩ := h
    exact (List.getElem?_eq_some_iff.1 hreap).1

/-- A job that is somewhere was recorded. -/
theorem IsAt.recorded {place : Place} (h : job.IsAt steps place) : job.Recorded steps := by
  have htake : ∀ {n}, job.Holds (steps.take n) → job.Recorded steps := by
    intro n hholds
    have hrecorded := hholds.1
    rw [Recorded, List.getElem?_take_of_lt] at hrecorded
    · exact hrecorded
    · have hlt : job.number < (steps.take n).length := hholds.1.lt_length
      rw [List.length_take] at hlt
      exact Nat.lt_of_lt_of_le hlt (Nat.min_le_left ..)
  cases place with
  | running => exact h.1.1
  | reported n => exact htake h.1
  | dropped n => exact htake h.1

/-- What earlier steps reported or dropped is as it was, so that what is new is from the last. -/
theorem isAt_concat_iff {place : Place} {n : Nat} (hn : place.number? = some n) (s : Step) :
    job.IsAt (steps ++ [s]) place ↔
      job.IsAt steps place ∨ (n = steps.length ∧ job.IsAt (steps ++ [s]) place) := by
  rcases Nat.lt_or_ge n steps.length with hlt | hge
  · have htake : (steps ++ [s]).take n = steps.take n :=
      List.take_append_of_le_length (Nat.le_of_lt hlt)
    have hearlier : job.IsAt (steps ++ [s]) place ↔ job.IsAt steps place := by
      cases place with
      | running => cases hn
      | reported m =>
        cases hn
        simp only [IsAt, htake, reportOf_concat_of_lt hlt]
      | dropped m =>
        cases hn
        simp only [IsAt, htake, List.getElem?_append_left hlt]
    simp [hearlier, Nat.ne_of_lt hlt]
  · constructor
    · intro hat
      have hbound := hat.lt_length hn
      rw [List.length_append, List.length_singleton] at hbound
      exact .inr ⟨by omega, hat⟩
    · rintro (hat | ⟨-, hat⟩)
      · exact absurd (hat.lt_length hn) (Nat.not_lt.2 hge)
      · exact hat

/-- **A child that is recorded** runs; all other jobs are where they were. -/
theorem isAt_add {pid : Nat} {command : String} (hfree : pid ∉ pids (after steps)) {place : Place} :
    job.IsAt (steps ++ [.add pid command]) place ↔
      job.IsAt steps place ∨ (place = .running ∧ job = ⟨steps.length, pid, command⟩) := by
  cases place with
  | running =>
    have hafter : (after (steps ++ [.add pid command])).running
        = (OrderedMap.insert (after steps) pid command).entries :=
      congrArg OrderedMap.entries (after_concat steps _)
    constructor
    · rintro ⟨hholds, hentry⟩
      rcases holds_add.1 hholds with hnew | ⟨hholds, hpid⟩
      · exact .inr ⟨rfl, hnew⟩
      · rw [hafter] at hentry
        rcases OrderedMap.mem_entries_insert.1 hentry with hnew | ⟨hentry, -⟩
        · exact absurd (Prod.mk.inj hnew).1 hpid
        · exact .inl ⟨hholds, hentry⟩
    · rintro (⟨hholds, hentry⟩ | ⟨-, rfl⟩)
      · -- The id is free, so no job that runs has it.
        have hpid : job.pid ≠ pid :=
          ne_of_mem_of_not_mem (List.mem_map_of_mem (f := (·.1)) hentry) hfree
        refine ⟨holds_add.2 (.inr ⟨hholds, hpid⟩), ?_⟩
        rw [hafter]
        exact OrderedMap.mem_entries_insert.2 (.inr ⟨hentry, hpid⟩)
      · refine ⟨holds_add.2 (.inl rfl), ?_⟩
        rw [hafter]
        exact OrderedMap.mem_entries_insert.2 (.inl rfl)
  | reported n =>
    -- The step itself reports nothing,
    rw [isAt_concat_iff rfl]
    refine or_congr_right ⟨?_, by nofun⟩
    rintro ⟨rfl, -, f, hf, -⟩
    rw [reportOf_concat] at hf
    cases hf
  | dropped n =>
    -- and drops nothing.
    rw [isAt_concat_iff rfl]
    refine or_congr_right ⟨?_, by nofun⟩
    rintro ⟨rfl, -, -, poll, hreap, -⟩
    rw [List.getElem?_concat_length] at hreap
    cases hreap

/-- What a round of polls reports of the jobs. -/
theorem mem_report_reap {jobs : JobTable} {pid : Nat} :
    (∃ f ∈ (jobs.reap poll).2, f.pid = pid) ↔
      pid ∈ pids jobs ∧ ∃ status, poll pid = .exited status := by
  rw [reap_finished]
  simp only [List.mem_filterMap, ended_eq_some_iff]
  constructor
  · rintro ⟨f, ⟨entry, hentry, rfl, hsaid⟩, rfl⟩
    exact ⟨List.mem_map_of_mem (f := (·.1)) hentry, f.status, hsaid⟩
  · rintro ⟨hpid, status, hsaid⟩
    obtain ⟨⟨pid, command⟩, hentry, rfl⟩ := List.mem_map.1 hpid
    exact ⟨⟨pid, command, status⟩, ⟨_, hentry, rfl, hsaid⟩, rfl⟩

/-- A job that runs goes on if polling says so, -/
theorem isAt_reap_running :
    job.IsAt (steps ++ [.reap poll]) .running ↔
      job.IsAt steps .running ∧ poll job.pid = .running := by
  simp only [IsAt, holds_reap, running, after_concat, step, reap_entries, List.mem_filter, goesOn,
    decide_eq_true_iff, and_assoc]

/-- is reported if polling says that it has ended, -/
theorem isAt_reap_reported :
    job.IsAt (steps ++ [.reap poll]) (.reported steps.length) ↔
      job.IsAt steps .running ∧ ∃ status, poll job.pid = .exited status := by
  have hat : job.IsAt (steps ++ [.reap poll]) (.reported steps.length) ↔
      job.Holds steps ∧ job.pid ∈ pids (after steps) ∧
        ∃ status, poll job.pid = .exited status := by
    simp only [IsAt, List.take_left, reportOf_concat, step, mem_report_reap]
  rw [hat, ← and_assoc]
  exact and_congr_left fun _ => isAt_running_iff.symm

/-- and is dropped if nothing is known of it. -/
theorem isAt_reap_dropped :
    job.IsAt (steps ++ [.reap poll]) (.dropped steps.length) ↔
      job.IsAt steps .running ∧ poll job.pid = .lost := by
  have hat : job.IsAt (steps ++ [.reap poll]) (.dropped steps.length) ↔
      job.Holds steps ∧ job.pid ∈ pids (after steps) ∧ poll job.pid = .lost := by
    simp only [IsAt, List.take_left, List.getElem?_concat_length, Option.some.injEq,
      Step.reap.injEq, exists_eq_left']
  rw [hat, ← and_assoc]
  exact and_congr_left fun _ => isAt_running_iff.symm

/-- **A round of polls** puts each running job where polling says, and leaves the others where they
    were. -/
theorem isAt_reap {place : Place} :
    job.IsAt (steps ++ [.reap poll]) place ↔
      ∃ before, job.IsAt steps before ∧ place = before.next steps.length (poll job.pid) := by
  constructor
  · intro hat
    cases place with
    | running =>
      obtain ⟨hbefore, hsaid⟩ := isAt_reap_running.1 hat
      exact ⟨.running, hbefore, by rw [hsaid]; rfl⟩
    | reported n =>
      rcases (isAt_concat_iff rfl _).1 hat with hbefore | ⟨rfl, hlast⟩
      · exact ⟨.reported n, hbefore, rfl⟩
      · obtain ⟨hbefore, status, hsaid⟩ := isAt_reap_reported.1 hlast
        exact ⟨.running, hbefore, by rw [hsaid]; rfl⟩
    | dropped n =>
      rcases (isAt_concat_iff rfl _).1 hat with hbefore | ⟨rfl, hlast⟩
      · exact ⟨.dropped n, hbefore, rfl⟩
      · obtain ⟨hbefore, hsaid⟩ := isAt_reap_dropped.1 hlast
        exact ⟨.running, hbefore, by rw [hsaid]; rfl⟩
  · rintro ⟨before, hbefore, rfl⟩
    cases before with
    | running =>
      rcases hsaid : poll job.pid with _ | status | _
      · exact isAt_reap_running.2 ⟨hbefore, hsaid⟩
      · exact isAt_reap_reported.2 ⟨hbefore, status, hsaid⟩
      · exact isAt_reap_dropped.2 ⟨hbefore, hsaid⟩
    | reported n => exact (isAt_concat_iff rfl _).2 (.inl hbefore)
    | dropped n => exact (isAt_concat_iff rfl _).2 (.inl hbefore)

/-- A job that was recorded is in one place. -/
theorem existsUnique_isAt (hsound : Sound steps) (h : job.Recorded steps) :
    ∃! place, job.IsAt steps place := by
  induction steps using List.reverseRecOn with
  | nil => cases h
  | append_singleton steps s ih =>
    cases s with
    | reap poll =>
      obtain ⟨before, hbefore, honly⟩ := ih hsound.of_concat (recorded_reap.1 h)
      refine ⟨before.next steps.length (poll job.pid), isAt_reap.2 ⟨before, hbefore, rfl⟩, ?_⟩
      intro place hplace
      obtain ⟨before', hbefore', rfl⟩ := isAt_reap.1 hplace
      rw [honly before' hbefore']
    | add pid command =>
      have hstep : ∀ place, job.IsAt (steps ++ [.add pid command]) place ↔
          job.IsAt steps place ∨ (place = .running ∧ job = ⟨steps.length, pid, command⟩) :=
        fun _ => isAt_add hsound.free
      rcases recorded_add.1 h with hold | hnew
      · obtain ⟨before, hbefore, honly⟩ := ih hsound.of_concat hold
        refine ⟨before, (hstep before).2 (.inl hbefore), fun place hplace => ?_⟩
        rcases (hstep place).1 hplace with hbefore' | ⟨-, hnew⟩
        · exact honly place hbefore'
        · exact absurd (hnew ▸ hold.lt_length) (Nat.lt_irrefl _)
      · refine ⟨.running, (hstep .running).2 (.inr ⟨rfl, hnew⟩), fun place hplace => ?_⟩
        rcases (hstep place).1 hplace with hbefore | ⟨hrunning, -⟩
        · exact absurd (hnew ▸ hbefore.recorded.lt_length) (Nat.lt_irrefl _)
        · exact hrunning

end Job

/-! ### The whole registry -/

namespace JobTable

variable {steps : List Step}

/-- The jobs of a table are in ascending order of their process ids. -/
theorem running_ascending (jobs : JobTable) : jobs.running.Pairwise (·.1 < ·.1) := jobs.ascending

/-- So are those of a report. -/
theorem report_ascending (steps : List Step) (n : Nat) :
    (reportOf steps n).Pairwise (·.pid < ·.pid) := by
  unfold reportOf
  split
  · rename_i s hstep
    cases s with
    | add => exact .nil
    | reap poll =>
      rw [step, reap_finished, List.pairwise_filterMap]
      refine (after (steps.take n)).ascending.imp ?_
      intro entry entry' hlt f hf f' hf'
      rw [ended_eq_some_iff] at hf hf'
      rwa [hf.1, hf'.1] at hlt
  · exact .nil

/-- What a round of polls reports, it reports of a job that ran until then. -/
theorem exists_of_report {n : Nat} {poll : Nat → Poll} {f : Finished}
    (hreap : steps[n]? = some (.reap poll)) (hf : f ∈ reportOf steps n) :
    ∃ job : Job, job.IsAt steps (.reported n) ∧ f.pid = job.pid ∧ f.command = job.command ∧
      poll job.pid = .exited f.status := by
  have hended : f ∈ (after (steps.take n)).entries.filterMap (ended poll) := by
    rw [reportOf, hreap] at hf
    rwa [← reap_finished]
  obtain ⟨entry, hentry, hsome⟩ := List.mem_filterMap.1 hended
  obtain ⟨hsame, hsaid⟩ := ended_eq_some_iff.1 hsome
  obtain ⟨job, hholds, rfl⟩ := Job.exists_holds hentry
  obtain ⟨hpid, hcommand⟩ := Prod.mk.inj hsame
  exact ⟨job, ⟨hholds, f, hf, hpid.symm⟩, hpid.symm, hcommand.symm, hpid ▸ hsaid⟩

/-- **The registry of jobs.** After any history of recording and polling in which no child gets the
    process id of a job that was not reaped yet, each job that was ever recorded is in exactly one
    place: it still runs, or it was reported by one round of polls, or it was dropped by one.

* What runs, and what a round reports, are such jobs and nothing else, with the process id and the
  command line that were recorded, and with the status that polling said.
* One more round puts each job that runs where polling says: it goes on running, is reported, or is
  dropped. The others stay where they are.
* What runs, and what a round reports, is in ascending order of the process ids.
* The size of the table is the number of the jobs that run. -/
theorem accounts_for_jobs (h : Sound steps) :
    (∀ job : Job, job.Recorded steps → ∃! place, job.IsAt steps place) ∧
    (∀ entry ∈ (after steps).running, ∃ job : Job, job.Recorded steps ∧
      job.IsAt steps .running ∧ entry = (job.pid, job.command)) ∧
    (∀ n poll, steps[n]? = some (.reap poll) → ∀ f ∈ reportOf steps n, ∃ job : Job,
      job.Recorded steps ∧ job.IsAt steps (.reported n) ∧ f.pid = job.pid ∧
      f.command = job.command ∧ poll job.pid = .exited f.status) ∧
    (∀ (job : Job) place poll, job.IsAt steps place →
      job.IsAt (steps ++ [.reap poll]) (place.next steps.length (poll job.pid))) ∧
    (after steps).running.Pairwise (·.1 < ·.1) ∧
    (∀ n, (reportOf steps n).Pairwise (·.pid < ·.pid)) ∧
    (after steps).size = (after steps).running.length ∧
    ((after steps).isEmpty = true ↔ (after steps).running = []) := by
  refine ⟨fun job hjob => Job.existsUnique_isAt h hjob, fun entry hentry => ?_,
    fun n poll hreap f hf => ?_, fun job place poll hat => Job.isAt_reap.2 ⟨place, hat, rfl⟩,
    running_ascending _, report_ascending steps, rfl, ?_⟩
  · obtain ⟨job, hholds, rfl⟩ := Job.exists_holds hentry
    exact ⟨job, hholds.1, ⟨hholds, hentry⟩, rfl⟩
  · obtain ⟨job, hat, hpid, hcommand, hsaid⟩ := exists_of_report hreap hf
    exact ⟨job, hat.recorded, hat, hpid, hcommand, hsaid⟩
  · rw [isEmpty, decide_eq_true_iff, size, List.length_eq_zero_iff, running]

end JobTable

namespace Sample

open JobTable

/-- Two children, of which the first has ended when they are polled, and a third one after that,
    which gets the process id of the first. -/
def reused : List JobTable.Step :=
  [.add 7 "a", .add 9 "b", .reap fun pid => if pid = 7 then .exited (.exited 4) else .running,
    .add 7 "c"]

theorem sound_reused : Sound reused := by
  intro n pid command hadd
  match n with
  | 0 | 1 | 3 =>
    cases hadd
    decide +kernel
  | 2 => cases hadd
  | n + 4 => cases hadd

/-- The first and the third do not get mixed up. -/
theorem reused_process_id :
    Sound reused ∧ (∃! place, Job.IsAt ⟨0, 7, "a"⟩ reused place) ∧
      Job.IsAt ⟨0, 7, "a"⟩ reused (.reported 2) ∧ (after reused).running = [(7, "c"), (9, "b")] :=
  have hone := (accounts_for_jobs sound_reused).1 ⟨0, 7, "a"⟩ rfl
  ⟨sound_reused, hone, ⟨⟨rfl, fun n command hn hadd => by
    match n with
    | 1 => cases hadd
    | n + 2 => cases hadd⟩, ⟨7, "a", .exited 4⟩, by decide +kernel, rfl⟩, by decide +kernel⟩

end Sample

end CommandShell

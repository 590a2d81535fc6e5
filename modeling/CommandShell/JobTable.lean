import CommandShell.OrderedMap
import CommandShell.Host

namespace CommandShell

/-!
# JobTable — the children that nobody waits for

* `JobTable` — the command line of each job under its process id;
* `JobTable.survey` — polls the jobs, one after the other;
* `JobTable.reap` — drops the jobs that a poll says have ended or are lost, and reports the former;
* `JobTable.running`, `JobTable.size`, `JobTable.isEmpty` — the jobs that are left.
-/

/-- A job that was found to have ended. -/
structure Finished where
  /-- Its process id. -/
  pid : Nat
  /-- Its command line. -/
  command : String
  /-- How it ended. -/
  status : Status
deriving DecidableEq, Repr

/-- What polling jobs finds of those that do not go on. -/
structure Survey where
  /-- The jobs that have ended, with how. -/
  exited : List (Nat × Status) := []
  /-- The jobs that nothing is known of. -/
  lost : List Nat := []
deriving DecidableEq, Repr

/-- The command lines of the jobs by process id. -/
abbrev JobTable := OrderedMap Nat String

namespace JobTable

/-- Records a job. -/
def add (jobs : JobTable) (pid : Nat) (command : String) : JobTable :=
  OrderedMap.insert jobs pid command

/-- Whether polling says that the job goes on. -/
def goesOn (poll : Nat → Poll) (pid : Nat) : Bool := poll pid = .running

/-- Polls jobs one after the other. -/
def survey (poll : Nat → Poll) : List (Nat × String) → Survey
  | [] => {}
  | (pid, _) :: rest =>
    let found := survey poll rest
    match poll pid with
    | .running => found
    | .exited status => { found with exited := (pid, status) :: found.exited }
    | .lost => { found with lost := pid :: found.lost }

/-- Takes jobs that have ended out of the table, and reports each of them that is in it. -/
def collect (jobs : JobTable) : List (Nat × Status) → JobTable × List Finished
  | [] => (jobs, [])
  | (pid, status) :: rest =>
    match OrderedMap.get? jobs pid with
    | none => collect jobs rest
    | some command =>
      let (left, finished) := collect (OrderedMap.erase jobs pid) rest
      (left, ⟨pid, command, status⟩ :: finished)

/-- Polls every job; then takes out those that are lost, and those that have ended. The latter are
    reported, in the order of their ids. -/
def reap (jobs : JobTable) (poll : Nat → Poll) : JobTable × List Finished :=
  let found := survey poll jobs.entries
  collect (found.lost.foldl OrderedMap.erase jobs) found.exited

/-- The jobs that were not reaped yet, each with its process id, in the order of the ids. -/
def running (jobs : JobTable) : List (Nat × String) := jobs.entries

/-- How many jobs there are. -/
def size (jobs : JobTable) : Nat := jobs.entries.length

/-- Whether there are none. -/
def isEmpty (jobs : JobTable) : Bool := jobs.size = 0

/-- The process ids in ascending order. -/
def pids (jobs : JobTable) : List Nat := jobs.entries.map (·.1)

/-- The command lines in the order of the process ids. -/
def commands (jobs : JobTable) : List String := OrderedMap.values jobs

/-- The listing of the jobs: a line for each, with its process id. -/
def listing (jobs : JobTable) : String :=
  String.join (jobs.entries.map fun entry => "[" ++ toString entry.1 ++ "] " ++ entry.2 ++ "\n")

end JobTable

end CommandShell

import LineShell.Job
import LineShell.ShellError
import LineShell.Sink

/-!
The table of background jobs, in the order of their start. Job numbers count the starts and are
not used again. A sweep asks about every process once, announces the jobs that ended and drops
them; a process that cannot be asked about keeps its job.
-/
namespace LineShell

/-- What a probe finds out about a process. -/
inductive Liveness where
  | alive
  | exited
  deriving DecidableEq, Repr

/-- Asks about a process in a state, which may fail. -/
abbrev Probe (σ : Type) := ProcessId → σ → Except IoError Liveness × σ

structure JobTable where
  jobs : List Job := []
  issued : UInt32 := 0
  deriving DecidableEq, Repr

namespace JobTable

def register (table : JobTable) (pid : ProcessId) (command : String) : Job × JobTable :=
  let job : Job := { id := table.issued + 1, pid, command }
  (job, { jobs := table.jobs ++ [job], issued := table.issued + 1 })

def get (table : JobTable) (id : JobId) : Except ShellError Job :=
  match table.jobs.find? (·.id = id) with
  | some job => .ok job
  | none => .error (.jobNotFound id)

/-- Announces an ended job, unless an announcement of this sweep has failed. -/
def notify {σ : Type} (write : Writer σ) (job : Job) (so : Except IoError Unit) (s : σ) :
    Except IoError Unit × σ :=
  match so with
  | .ok _ => write (job.markDone.display ++ "\n") s
  | .error e => (.error e, s)

/-- Sweeps jobs; `so` is how the announcements have gone so far. -/
def sweep {σ : Type} (probe : Probe σ) (write : Writer σ) :
    List Job → Except IoError Unit → σ → List Job × Except IoError Unit × σ
  | [], so, s => ([], so, s)
  | job :: rest, so, s =>
      match probe job.pid s with
      | (.ok .exited, s) =>
          let (so, s) := notify write job so s
          sweep probe write rest so s
      | (_, s) =>
          let (kept, so, s) := sweep probe write rest so s
          (job :: kept, so, s)

/-- One sweep over the table. The first failed announcement is its result, but does not end it. -/
def reap {σ : Type} (table : JobTable) (probe : Probe σ) (write : Writer σ) (s : σ) :
    Except IoError Unit × JobTable × σ :=
  let (kept, so, s) := sweep probe write table.jobs (.ok ()) s
  (so, { table with jobs := kept }, s)

/-- The jobs to show, or that there are none. -/
inductive Listing where
  | empty
  | rows (jobs : List Job)
  deriving DecidableEq, Repr

def list (table : JobTable) : Listing :=
  if table.jobs.isEmpty then .empty else .rows table.jobs

def Listing.display : Listing → String
  | .empty => "No background jobs"
  | .rows jobs => "\n".intercalate (jobs.map Job.display)

/-- The table with all it holds, a line for itself and for each job. -/
def describe (table : JobTable) : String :=
  toString table.jobs.length ++ " jobs\tjob_count: " ++ toString table.issued ++ "\n" ++
    String.join (table.jobs.map fun job => job.describe ++ "\n")

end JobTable

end LineShell

import LineShell.Job
import LineShell.Machine.ByteText
import LineShell.Machine.Signal
import LineShell.Text.Numeral

/-!
The jobs of a script: what it has started without waiting. A job keeps its number until it has
ended, was waited for, and another one needs the number, or until its end was shown. A table has
the newest job first, and no two jobs of one number.
-/
namespace LineShell.Machine

/-- Processes that were started together. The end of the last one is that of the job. -/
structure ScriptJob where
  number : Nat
  /-- The processes, with how they have ended as far as that is known. -/
  parts : List (ProcessId × Option WaitStatus)
  awaited : Bool := false

namespace ScriptJob

def pid? (job : ScriptJob) : Option ProcessId :=
  job.parts.getLast?.map (·.1)

def status? (job : ScriptJob) : Option WaitStatus :=
  job.parts.getLast?.bind (·.2)

/-- The processes that are not known to have ended. -/
def running (job : ScriptJob) : List ProcessId :=
  (job.parts.filter (·.2.isNone)).map (·.1)

def isDone (job : ScriptJob) : Bool :=
  job.parts.all (·.2.isSome)

def note (status? : ProcessId → Option WaitStatus) (job : ScriptJob) : ScriptJob :=
  { job with parts := job.parts.map fun (pid, known) => (pid, known <|> status? pid) }

/-- Whether another job may take the number. -/
def isSpent (job : ScriptJob) : Bool :=
  job.isDone && job.awaited

/-! ### Tables -/

def freeNumber (jobs : List ScriptJob) : Nat :=
  let numbers := (jobs.filter (!·.isSpent)).map (·.number)
  ((List.range' 1 jobs.length).find? (!numbers.contains ·)).getD (jobs.length + 1)

/-- Without the job whose number the next one takes. -/
def makeRoom (jobs : List ScriptJob) : List ScriptJob :=
  jobs.filter (·.number ≠ freeNumber jobs)

def add (pids : List ProcessId) (jobs : List ScriptJob) : List ScriptJob :=
  { number := freeNumber jobs, parts := pids.map (·, none) } :: makeRoom jobs

/-- Counts the jobs that have ended as waited for, up to the first that has not. -/
def countAwaited (jobs : List ScriptJob) : List ScriptJob :=
  (jobs.takeWhile (·.isDone)).map ({ · with awaited := true }) ++ jobs.dropWhile (·.isDone)

/-- The job that a text such as `%2` means, or why there is none. -/
def find (jobs : List ScriptJob) (text : ByteText) : Except ByteText ScriptJob :=
  let orElse := fun (job? : Option ScriptJob) (problem : ByteText) =>
    match job? with
    | some job => Except.ok job
    | none => .error problem
  match text.toList with
  | ['%'] | ['%', '+'] | ['%', '%'] => orElse jobs.head? "No current job"
  | ['%', '-'] => orElse jobs[1]? "No previous job"
  | '%' :: place =>
      orElse ((Text.natural? place).bind fun n => jobs.find? (·.number = n))
        ("No such job: " ++ text)
  | _ => .error ("No such job: " ++ text)

/-! ### Showing -/

/-- What is shown of a job: its line, its line with the processes, or the first process alone. -/
inductive View where
  | line
  | processes
  | leader
  deriving DecidableEq

def state (job : ScriptJob) : ByteText :=
  if !job.isDone then "Running"
  else
    match job.status? with
    | none => "Running"
    | some status =>
        match status.signal? with
        | some signal => Signal.description signal
        | none =>
            if status.shellCode = 0 then "Done" else "Done(" ++ toString status.shellCode ++ ")"

/-- The columns of a line before the text of a command, which scripts do not keep. -/
def width : Nat := 33

/-- A text filled up to the columns that a line has before a command. -/
def padded (text : ByteText) : ByteText :=
  text ++ "".pushn ' ' (max 1 (width - text.length))

/-- What is shown of a job in a table, and the table after that: an end is shown once. -/
def shown (view : View) (job : ScriptJob) (jobs : List ScriptJob) : ByteText × List ScriptJob :=
  let pids := job.parts.map fun part => toString part.1
  if view = .leader then (pids.headD "" ++ "\n", jobs)
  else
    let mark :=
      if (jobs.head?.map (·.number)) = some job.number then "+"
      else if (jobs[1]?.map (·.number)) = some job.number then "-"
      else " "
    let front : ByteText := "[" ++ toString job.number ++ "] " ++ mark ++ " "
    let text :=
      if view = .line then
        padded (front ++ job.state) ++ String.join (pids.tail.map fun _ => " | ")
      else
        let first := padded (front ++ pids.headD "" ++ " " ++ job.state)
        let indent := "".pushn ' ' front.length
        let others := pids.tail.map fun pid => " |\n" ++ padded (indent ++ pid ++ " ")
        first ++ String.join others
    (text ++ "\n", if job.isDone then jobs.filter (·.number ≠ job.number) else jobs)

def showAll (view : View) : List ScriptJob → List ScriptJob → ByteText × List ScriptJob
  | [], jobs => ("", jobs)
  | job :: rest, jobs =>
      let (text, jobs) := job.shown view jobs
      let (others, jobs) := showAll view rest jobs
      (text ++ others, jobs)

end ScriptJob

end LineShell.Machine

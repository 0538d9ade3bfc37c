import LineShell.Text.Quoted

/-!
A background job: a process started and not waited for, under a number of its own.
-/
namespace LineShell

abbrev JobId := UInt32

abbrev ProcessId := UInt32

inductive JobStatus where
  | running
  | done
  deriving DecidableEq, Repr

def JobStatus.text : JobStatus → String
  | .running => "Running"
  | .done => "Done"

structure Job where
  id : JobId
  pid : ProcessId
  command : String
  status : JobStatus := .running
  deriving DecidableEq, Repr

namespace Job

def markDone (job : Job) : Job :=
  { job with status := .done }

def display (job : Job) : String :=
  "[" ++ toString job.id ++ "]  " ++ job.status.text ++ "    " ++ job.command

def displayLong (job : Job) : String :=
  "[" ++ toString job.id ++ "]  " ++ toString job.pid ++ " " ++ job.status.text ++ "    " ++
    job.command

def describe (job : Job) : String :=
  "Job \x7b id: JobId(" ++ toString job.id ++ "), pid: ProcessId(" ++ toString job.pid ++
    "), command: " ++ Text.quoted job.command ++ ", status: " ++ job.status.text ++ " \x7d"

def announcement (job : Job) : String :=
  "[" ++ toString job.id ++ "] " ++ toString job.pid

end Job

end LineShell

import LineShell.Builtin.Name
import LineShell.Shell
import LineShell.Text.Numeral

/-!
Listing the background jobs: all of them, or those asked for by number, in one of three forms.
-/
namespace LineShell.Builtin

variable {σ : Type}

/-- What `jobs` is asked: two flags, and the numbers of jobs. -/
structure JobsRequest where
  long : Bool := false
  pidsOnly : Bool := false
  ids : List JobId := []
  deriving DecidableEq, Repr

def longFlag : Usage.Flag := { short := some 'l' }

def pidsFlag : Usage.Flag := { short := some 'p' }

/-- The number of a job; nothing but blanks is zero. -/
def jobNumber (word : String) : Except UsageError JobId :=
  if word.toList.all Text.isBlank then .ok 0
  else
    match Text.unsigned32? word with
    | some id => .ok id
    | none => .error (.badValue word "u32" "<jobspec>")

def JobsRequest.ofArgs (args : List String) : Except UsageError JobsRequest :=
  match Usage.read [longFlag, pidsFlag] args with
  | .error problem => .error (.misuse problem jobsUsage)
  | .ok arguments =>
      if arguments.count longFlag > 1 ∨ arguments.count pidsFlag > 1 then
        .error (.misuse Usage.noPattern jobsUsage)
      else do
        let ids ← arguments.operands.mapM jobNumber
        pure { long := arguments.has longFlag, pidsOnly := arguments.has pidsFlag, ids }

def JobsRequest.line (request : JobsRequest) (job : Job) : String :=
  if request.pidsOnly then toString job.pid
  else if request.long then job.displayLong
  else job.display

def writeJobs (write : Writer σ) (request : JobsRequest) (jobs : JobTable) : ShellM σ Unit := do
  if request.ids.isEmpty then
    match jobs.list with
    | .empty =>
        if !request.long && !request.pidsOnly then
          ShellM.emit write (JobTable.Listing.empty.display ++ "\n")
    | .rows rows => rows.forM fun job => ShellM.emit write (request.line job ++ "\n")
  else
    request.ids.forM fun id => do
      match jobs.get id with
      | .ok job => ShellM.emit write (request.line job ++ "\n")
      | .error e => ShellM.fail e

def runJobs (write : Writer σ) (args : List String) : ShellM σ Unit := do
  match JobsRequest.ofArgs args with
  | .error e => ShellM.fail (.usage e)
  | .ok request => writeJobs write request (← get).shell.jobs

end LineShell.Builtin

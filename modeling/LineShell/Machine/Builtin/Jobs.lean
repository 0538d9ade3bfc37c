import LineShell.Machine.Builtin.Action

/-!
Commands on the jobs of a script: waiting for them and showing them. A script moves none between
foreground and background.
-/
namespace LineShell.Machine.Builtins

open ProcessM Machine.Action

def jobOf (arg : ByteText) : ExceptT ByteText ProcessM ScriptJob := do
  match ScriptJob.find (← context).jobs arg with
  | .ok job => pure job
  | .error problem => throw problem

/-- Waits for the jobs that arguments mean, in turn. The status is that of the last one that is a
job, or else `so`. -/
def waitFor (so : Nat) : List ByteText → Action
  | [] => status so
  | arg :: rest => do
      let job? ← if arg.toList.head? = some '%' then some <$> jobOf arg else do
        let n ← natural arg
        pure ((← context).jobs.find? fun job => job.pid?.map (·.toNat) = some n)
      match job? with
      | none => waitFor so rest
      | some job => later [.await job.running (.job job.number rest)]

/-- Takes the status of a job that was waited for, and goes on with others. -/
def endWaitFor (number : Nat) (others : List ByteText) : Action := do
  let jobs := (← context).jobs
  let status? := (jobs.find? (·.number = number)).bind (·.status?)
  modifyContext fun c =>
    { c with
      jobs := jobs.map fun job =>
        if job.number = number then { job with awaited := true } else job }
  waitFor ((status?.map (·.shellCode)).getD 127) others

def wait (args : List ByteText) : Action := do
  let (_, args) ← options [] args
  if args = [] then
    later [.await ((← context).jobs.flatMap (·.running)) .all]
  else waitFor 127 args

def showJobs (view : ScriptJob.View) (said : ByteText) : List ByteText → Action
  | [] => emit said
  | arg :: rest => do
      let jobs := (← context).jobs
      match ScriptJob.find jobs arg with
      | .error problem => do
          let _ ← emit said
          throw problem
      | .ok job => do
          let (text, jobs) := job.shown view jobs
          modifyContext fun c => { c with jobs }
          showJobs view (said ++ text) rest

/-- Shows the jobs given, or all. Of their ends, those are known that came while the script waited
for something. -/
def jobs (args : List ByteText) : Action := do
  let (letters, args) ← options ['l', 'p'] args
  let view : ScriptJob.View := match letters.getLast? with
    | none => .line
    | some 'l' => .processes
    | some _ => .leader
  if args = [] then
    let all := (← context).jobs
    let (text, jobs) := ScriptJob.showAll view all all
    modifyContext fun c => { c with jobs }
    emit text
  else showJobs view "" args

def moveJob (args : List ByteText) : Action := do
  let (_, args) ← options [] args
  let _ ← jobOf (args.headD "%")
  throw ("job " ++ args.headD "(null)" ++ " not created under job control")

end LineShell.Machine.Builtins

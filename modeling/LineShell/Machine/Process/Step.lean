import LineShell.Machine.Process.Command
import LineShell.Machine.Process.Startup
import LineShell.Machine.Tool.Copy
import LineShell.Machine.Tool.Pause
import LineShell.Machine.Tool.Remove

/-!
Running a process, a task at a time. What is run on a signal comes after the command during which
the signal came.
-/
namespace LineShell.Machine

namespace ProcessM

/-- Whether it counts, where options ask for that, that a script fails. -/
def isChecked : Script → Bool
  | .command .. | .pipeline _ | .group true .. => true
  | _ => false

/-- Leaves what comes after a script: what is run on signals, and the end if the script has failed,
where options ask for that. -/
def prepare (script : Script) (manner : Manner) : ProcessM Unit := do
  let c ← context
  if isChecked script ∧ !manner.tested ∧ c.hasOption 'e' then push [.verify]
  if hasTraps c then push [.traps]

/-- Starts the parts of a pipeline, each reading what the one before it writes. -/
def startParts (change : Context → Context) (ignored : List Nat) (manner : Manner) :
    (input : Option Handle) → List Script → ProcessM (List ProcessId)
  | _, [] => pure []
  | input, part :: rest => do
      let withInput := fun (c : Context) => match input with
        | some handle => c.setDescriptor 0 handle
        | none => change c
      let tasks : List Task := [.run part { manner with final := true } []]
      if rest.isEmpty then
        pure [← fork withInput ignored tasks]
      else
        let (reading, writing) ← withStorage fun s =>
          let (reading, writing, s) := s.openPipe
          ((reading, writing), s)
        let pid ← fork (fun c => (withInput c).setDescriptor 1 writing) ignored tasks
        pure (pid :: (← startParts id ignored manner (some reading) rest))

/-- Starts a script without waiting for it. It reads nothing, and the keyboard does not interrupt
it. -/
def startBehind (script : Script) : ProcessM Unit := do
  let view ← viewpoint
  let opened ← withStorage (·.openForReading view "/dev/null")
  let change := fun (c : Context) => match opened with
    | .ok handle => c.setDescriptor 0 handle
    | .error _ => c
  let parts := match script with
    | .pipeline parts => parts
    | script => [script]
  makeRoom
  let pids ← startParts change [Signal.interrupt, Signal.quit] {} none parts
  modifyContext fun c =>
    { c with jobs := ScriptJob.add pids c.jobs, lastStarted := pids.getLast?, status := 0 }

/-- Whether one of these words, as patterns, matches a text. -/
def matchesAny (text : List Char) : List Word → ExpandM Bool
  | [] => pure false
  | word :: rest => do
      if (← Expansion.pattern word).accepts text then pure true else matchesAny text rest

/-- The first alternative that a text matches. -/
def chosen? (text : List Char) : List (List Word × Script) → ExpandM (Option Script)
  | [] => pure none
  | (patterns, body) :: rest => do
      if ← matchesAny text patterns then pure (some body) else chosen? text rest

/-- Runs what was chosen among alternatives, which succeeds if it is nothing. -/
def runChoice (script : Script) (manner : Manner) : ProcessM Unit :=
  match script with
  | .nothing => setStatus 0
  | script => push [.run script manner []]

/-- Runs a group of commands with redirections of its own, which last to the end of the process if
the group stands apart. -/
def runGroup (apart : Bool) (again : Task) (body : Script) (redirects : List Redirect)
    (manner : Manner) (outputs : List ByteText) : ProcessM Unit := do
  expand outputs again (Redirect.targets redirects) fun targets => do
    if !targets.isEmpty ∧ !apart then push [.restore (← context).descriptors]
    match ← Redirect.makeAll (!apart) targets with
    | none => push [.run body { manner with final := apart } []]
    | some (.senseless problem) => endBySense problem
    | some (.failed problem) => do
        complainHere problem
        if apart then leave 2 else setStatus 2

def runScript (script : Script) (manner : Manner) (outputs : List ByteText) : ProcessM Unit := do
  let again := Task.run script manner outputs
  let inner : Manner := { tested := manner.tested }
  if outputs.isEmpty then prepare script manner
  match script with
  | .nothing => pure ()
  | .command line assigned words redirects => do
      runSimple line assigned words redirects manner outputs
  | .inTurn first second => push [.run first inner [], .run second manner []]
  | .ifGood first second => push [.run first { tested := true } [], .whenGood second manner]
  | .ifBad first second => push [.run first { tested := true } [], .whenBad second manner]
  | .negated body => push [.run body { tested := true } [], .negate]
  | .pipeline parts => do
      makeRoom
      let pids ← startParts id [] inner none parts
      push [.await pids .command]
  | .background body => startBehind body
  | .choice condition yes no =>
      push [.run condition { tested := true } [], .choose yes no manner]
  | .loop whileGood condition body =>
      push [.run condition { tested := true } [], .loop whileGood condition body inner 0 true]
  | .forEach line name words body => do
      modifyContext fun c => { c with line }
      expand outputs again (Expansion.fields words) fun values => do
        if values = [] then setStatus 0
        push [.forEach line name values body inner]
  | .select line word arms => do
      modifyContext fun c => { c with line }
      let act := do
        let text ← Expansion.text word
        chosen? text.toList arms
      expand outputs again act fun body? => runChoice (body?.getD .nothing) manner
  | .define name body => do
      modifyContext fun c =>
        { c with functions := (name, body) :: c.functions.filter (·.1 ≠ name), status := 0 }
  | .group apart line body redirects => do
      modifyContext fun c => { c with line }
      let c ← context
      if apart ∧ !(manner.final ∧ !hasTraps c) then
        expand outputs again (Redirect.settle redirects) fun redirects => do
          if !redirects.all Redirect.isSensible then endBySense Redirect.senselessText
          else
            makeRoom
            let script := Script.group true line body redirects
            let pid ← fork id [] [.run script { inner with final := true } []]
            push [.await [pid] .command]
      else runGroup apart again body redirects inner outputs

def runLoop (whileGood : Bool) (condition body : Script) (manner : Manner) (last : Nat)
    (judging : Bool) : ProcessM Unit := do
  let status := (← context).status
  if !judging then
    push [.run condition { tested := true } [], .loop whileGood condition body manner status true]
  else if (status == 0) == whileGood then
    push [.run body manner [], .loop whileGood condition body manner last false]
  else setStatus last

def runEach (line : Nat) (name : String) (values : List ByteText) (body : Script)
    (manner : Manner) : ProcessM Unit := do
  match values with
  | [] => pure ()
  | value :: values =>
      if (← context).readOnly.contains name then
        complainAt line (name ++ ": is read only")
        leave 2
      else
        modifyContext (·.setVariable name value)
        push [.run body manner [], .forEach line name values body manner]

/-- Takes the output of a script that has ended, without the newlines at its end. -/
def takeOutput (reading : Handle) (pid : ProcessId) : ProcessM Unit := do
  let bytes := ((← withStorage (·.read reading id)).toOption.getD []).filter (· ≠ 0)
  let text := ByteText.ofBytes (bytes.reverse.dropWhile (· = 10)).reverse
  let code ← codeOf pid
  noteEnds
  modifyContext fun c => { c with substituted := code }
  modifySelf fun p =>
    match p.tasks with
    | [] => p
    | task :: rest => { p with tasks := task.withOutput text :: rest }

def finish : ProcessM Unit := do
  let c ← context
  match c.traps.lookup 0 with
  | some action => do
      modifyContext fun c => { c with traps := c.traps.filter (·.1 ≠ 0) }
      push [.source (Token.ofText 1 action) {}, .conclude c.status]
  | none => modifySelf (·.finishWith (.exited (Fin.ofNat 256 c.status)))

def useTool (tool : Tool) (args : List ByteText) : ProcessM Unit := do
  match tool with
  | .shell => Startup.run args
  | .copy => Copying.start args
  | .write => Echoing.run args
  | .succeed => setStatus 0
  | .fail => setStatus 1
  | .pause => Pausing.run args
  | .remove => Removal.run args

/-- Runs what is to be run on the signals that came, in the order of their numbers. The script goes
on with the status that it had. -/
def runTraps : ProcessM Unit := do
  let p ← self
  if let some signal := p.pending.min? then
    modifySelf fun p => { p with pending := p.pending.filter (· ≠ signal) }
    let action := (p.context.traps.lookup signal).getD ""
    push [.source (Token.ofText 1 action) {}, .resume p.context.status, .traps]

/-- Goes on with what follows a builtin's wait, which may fail. -/
def goOn (act : Action) : ProcessM Unit := do
  match ← act.run with
  | .ok none => pure ()
  | .ok (some status) => setStatus status
  | .error problem => do
      complainHere problem
      setStatus 2

/-- Ends a wait that a script was told to do: for a job, or for all. -/
def endWait (pids : List ProcessId) (wait : Waiting) : ProcessM Unit := do
  let m := (← get).machine
  let signal? := (← self).pending.max?.filter fun _ => !pids.all m.isOver
  if let .job .. := wait then reportAll (pids.filter m.isOver)
  if pids ≠ [] then noteEnds
  if let .all := wait then
    modifyContext fun c => { c with jobs := ScriptJob.countAwaited c.jobs }
  match signal?, wait with
  | some signal, _ => setStatus (128 + signal)
  | none, .job number others => goOn (Builtins.endWaitFor number others)
  | none, _ => setStatus 0

def runTask : Task → ProcessM Unit
  | .source lexemes manner => do
      match Script.next lexemes with
      | .error misread => do
          complainAt misread.line ("Syntax error: " ++ misread.problem)
          leave 2
      | .ok none => pure ()
      | .ok (some (script, rest)) =>
          let isLast := Builtins.isBlank rest
          push [.run script { manner with final := manner.final && isLast } [], .source rest manner]
  | .run script manner outputs => do
      if !(← context).hasOption 'n' then runScript script manner outputs
  | .command assigned words manner outputs => runCommand assigned words manner outputs
  | .whenGood script manner => do
      if (← context).status = 0 then push [.run script manner []]
  | .whenBad script manner => do
      if (← context).status ≠ 0 then push [.run script manner []]
  | .negate => do
      setStatus (if (← context).status = 0 then 1 else 0)
  | .choose yes no manner => do
      if (← context).status = 0 then push [.run yes manner []]
      else runChoice no manner
  | .loop whileGood condition body manner last judging =>
      runLoop whileGood condition body manner last judging
  | .forEach line name values body manner => runEach line name values body manner
  | .verify => do
      let status := (← context).status
      if status ≠ 0 then leave status
  | .restore descriptors => modifyContext (·.undo (.restore descriptors))
  | .recover saved => modifyContext (·.undo (.recover saved))
  | .endFunction params locals => modifyContext (·.undo (.endFunction params locals))
  | .endBuiltin outer => modifyContext (·.undo (.endBuiltin outer))
  | .endFile => pure ()
  | .resume status => setStatus status
  | .traps => runTraps
  | .await pids .command => takeStatus pids
  | .await pids wait => endWait pids wait
  | .collect reading pid => takeOutput reading pid
  | .readLine handle raw names => goOn (Builtins.takeLine handle raw names)
  | .use tool args => useTool tool args
  | .interpret handle => Startup.interpret handle
  | .copy copying => copying.advance
  | .wake _ => pure ()
  | .finish => finish
  | .conclude status => do
      setStatus status
      finish

/-- Does the first task. Without any, the process ends. -/
def step : ProcessM Unit := do
  let p ← self
  match p.tasks with
  | [] => modifySelf (·.finishWith (.exited (Fin.ofNat 256 p.context.status)))
  | task :: tasks => do
      modifySelf fun p => { p with tasks }
      runTask task

end ProcessM

end LineShell.Machine

import LineShell.Machine.Population

/-!
What a process does: to itself, to the files, and to the other processes of its machine. Once it
has ended, it does nothing any more.
-/
namespace LineShell.Machine

/-- A process that acts, and its machine with the other processes. -/
structure Scene where
  self : Process
  machine : Machine

abbrev ProcessM := StateM Scene

namespace ProcessM

def self : ProcessM Process := do
  pure (← get).self

def context : ProcessM Context := do
  pure (← get).self.context

def files : ProcessM Storage := do
  pure (← get).machine.storage

def viewpoint : ProcessM Viewpoint := do
  let c ← context
  pure ((← files).viewpoint c.directory c.descriptors)

def modifySelf (change : Process → Process) : ProcessM Unit :=
  modify fun s => { s with self := change s.self }

def modifyContext (change : Context → Context) : ProcessM Unit :=
  modifySelf fun p => { p with context := change p.context }

def withStorage (act : Storage → α × Storage) : ProcessM α := do
  let s ← get
  let (a, storage) := act s.machine.storage
  set { s with machine := { s.machine with storage } }
  pure a

def changeStorage (change : Storage → Storage) : ProcessM Unit :=
  modify fun s =>
    { s with machine := { s.machine with storage := change s.machine.storage } }

def push (tasks : List Task) : ProcessM Unit :=
  modifySelf fun p => { p with tasks := tasks ++ p.tasks }

def setStatus (status : Nat) : ProcessM Unit :=
  modifyContext (·.withStatus status)

/-- Leaves everything that the process was about to do, but for what comes at its end. -/
def leave (status : Nat) : ProcessM Unit :=
  modifySelf fun p => { p with tasks := [.finish], context := p.context.withStatus status }

def held : ProcessM (List Handle) := do
  let s ← get
  pure (s.self.handles ++ s.machine.processes.flatMap Process.handles)

/-- Sends a signal to a process, which may be this one; false if there is no such process. -/
def signal (pid : ProcessId) (signal : Nat) : ProcessM Bool := do
  let s ← get
  if pid = s.self.pid then
    if signal ≠ 0 then modifySelf (·.receive signal)
    pure true
  else
    let endsChild := (s.machine.process? pid).any fun p => p.isAlive && p.parent = s.self.pid
    let (found, machine) := s.machine.signal pid signal
    set { s with machine }
    if endsChild ∧ machine.isOver pid then modifySelf (·.receive Signal.child)
    pure found

def writeTo (handle : Handle) (bytes : Bytes) : ProcessM (Except OsError Unit) := do
  if !(← self).isAlive then pure (.ok ())
  else
    let files ← files
    match files.pipeOf? handle with
    | none => withStorage (·.write handle bytes)
    | some pipe =>
        if (← held).any (files.readsFrom pipe ·) then withStorage (·.write handle bytes)
        else
          let _ ← signal (← self).pid Signal.pipe
          pure (.error .brokenPipe)

def writeBytes (descriptor : Nat) (bytes : Bytes) : ProcessM (Except OsError Unit) := do
  match (← context).descriptors.lookup descriptor with
  | none => pure (.error .badDescriptor)
  | some handle => writeTo handle bytes

def writeText (descriptor : Nat) (text : ByteText) : ProcessM (Except OsError Unit) :=
  writeBytes descriptor (ByteText.toBytes text)

def complain (text : ByteText) : ProcessM Unit := do
  let _ ← writeText 2 (text ++ "\n")

/-- A line on the error stream that says in which script, on which line and in which builtin a
problem arose. -/
def complainAt (line : Nat) (problem : ByteText) : ProcessM Unit := do
  let c ← context
  let builtin := match c.builtin with
    | some name => name ++ ": "
    | none => ""
  complain (c.name ++ ": " ++ toString line ++ ": " ++ builtin ++ problem)

def complainHere (problem : ByteText) : ProcessM Unit := do
  complainAt (← context).line problem

def complainOf (thing problem : ByteText) : ProcessM Unit := do
  complain ((← context).name ++ ": " ++ thing ++ ": " ++ problem)

/-- Ends a program that was not used as it is meant to be. -/
def misused (problem : ByteText) : ProcessM Unit := do
  let name := (← context).name
  complain (name ++ ": " ++ problem ++ "\nTry '" ++ name ++ " --help' for more information.")
  setStatus 1

def spawn (context : ProcessId → Context) (tasks : List Task) (ignored : List Nat) :
    ProcessM ProcessId := do
  let s ← get
  let pid := s.machine.lastPid + 1
  let child : Process := { pid, parent := s.self.pid, context := context pid, tasks, ignored }
  set { s with machine := { s.machine.settle with lastPid := pid }.insert child }
  push [.wake (s.machine.clock + spawnTime)]
  pure pid

def fork (change : Context → Context) (ignored : List Nat) (tasks : List Task) :
    ProcessM ProcessId := do
  let p ← self
  let start := Task.wake ((← get).machine.clock + forkTime)
  spawn (fun _ => change p.context.forked) (start :: tasks ++ [.finish]) (p.ignored ++ ignored)

/-! ### Children that have ended -/

/-- Makes room for a job among those of a script, be it one that is waited for at once. -/
def makeRoom : ProcessM Unit :=
  modifyContext fun c => { c with jobs := ScriptJob.makeRoom c.jobs }

/-- Takes note of the jobs whose processes have ended, which are forgotten then. -/
def noteEnds : ProcessM Unit := do
  let m := (← get).machine
  let jobs := (← context).jobs.map (·.note m.status?)
  modifyContext fun c => { c with jobs }
  let ended := jobs.flatMap fun job => (job.parts.filter (·.2.isSome)).map (·.1)
  modify fun s => { s with machine := ended.foldl Machine.collect s.machine }

def report (status : WaitStatus) : ProcessM Unit := do
  if let some signal := status.signal? then
    if signal ≠ Signal.interrupt ∧ signal ≠ Signal.pipe then
      complain (Signal.description signal)

def reportAll : List ProcessId → ProcessM Unit
  | [] => pure ()
  | pid :: rest => do
      if let some status := (← get).machine.status? pid then report status
      reportAll rest

/-- The code of a child that has ended, which is forgotten with it. -/
def codeOf (pid : ProcessId) : ProcessM Nat := do
  let m := (← get).machine
  modify fun s => { s with machine := s.machine.collect pid }
  match m.status? pid with
  | none => pure 127
  | some status => do
      report status
      pure status.shellCode

/-- Takes the status of the last of these children, all of which have ended. -/
def takeStatus : List ProcessId → ProcessM Unit
  | [] => noteEnds
  | pid :: rest => do
      setStatus (← codeOf pid)
      takeStatus rest

end ProcessM

end LineShell.Machine

import LineShell.Machine.Process

/-!
A machine: its files, its processes and its clock, and what it keeps for the shell that runs on it.
A process that has ended stays until its parent has asked for it; what an ended parent leaves
behind goes when it ends.
-/
namespace LineShell

structure Machine where
  storage : Machine.Storage := {}
  directory : Machine.NodeId := Machine.FileTree.root
  /-- What the shell has taken from its input and not used yet. -/
  unread : Bytes := []
  /-- All processes but the shell, by number. -/
  processes : List Machine.Process := []
  /-- Microseconds since the start. -/
  clock : Nat := 0
  lastPid : ProcessId := 4190000
  /-- Signals that the shell keeps off. It is told of a broken pipe as an error only. -/
  shielded : List Nat := [Machine.Signal.pipe]
  /-- The signal that has ended the shell. -/
  shellEnded : Option Nat := none
  /-- Whether the shell has ended by itself. -/
  shellLeft : Bool := false

namespace Machine

/-- The number of the shell's own process. -/
def shellPid : ProcessId := 4190000

/-- The first process, the parent of those whose parent is gone. No signal moves it. -/
def nobody : ProcessId := 1

/-- Microseconds that starting a process takes. -/
def spawnTime : Nat := 100

/-- Microseconds until a new process does its first task. -/
def forkTime : Nat := 200

/-- Microseconds until a program does its first task in its process. -/
def loadTime : Nat := 500

def programTasks (m : Machine) (delay : Nat) (tool : Tool) (args : List ByteText) : List Task :=
  [.wake (m.clock + delay), .use tool args, .finish]

def process? (m : Machine) (pid : ProcessId) : Option Process :=
  m.processes.find? (·.pid = pid)

def insert (m : Machine) (p : Process) : Machine :=
  { m with
    processes := m.processes.takeWhile (·.pid < p.pid) ++
      p :: m.processes.dropWhile (·.pid < p.pid) }

def collect (m : Machine) (pid : ProcessId) : Machine :=
  { m with processes := m.processes.filter (·.pid ≠ pid) }

/-- How a process ended; one that is not there has not. -/
def status? (m : Machine) (pid : ProcessId) : Option WaitStatus :=
  ((m.process? pid).bind (·.ended)).map End.status

/-- Lets so much time pass that processes take notice of a stop, as it does when one starts or
ends. -/
def settle (m : Machine) : Machine :=
  { m with processes := m.processes.map Process.settle }

/-- Forgets what has ended and will not be asked for, after the end of a process, of which its
parent is told. -/
def bury (m : Machine) (p : Process) : Machine :=
  if p.isAlive then m.insert p
  else
    let others := m.processes.filterMap fun q =>
      if q.pid = p.parent then some (q.receive Signal.child)
      else if q.parent ≠ p.pid then some q
      else if q.isAlive then some { q with parent := nobody }
      else none
    let m := { m with processes := others }.settle
    if p.parent = nobody then m else m.insert p

/-- Whether a process waits for its children, and so asks for those that have ended at once. -/
def isWaiting (m : Machine) (pid : ProcessId) : Bool :=
  match m.process? pid with
  | some { tasks := .await .. :: _, .. } => true
  | _ => false

/-- Sends a signal to a process; false if there is no such process. -/
def signal (m : Machine) (pid : ProcessId) (signal : Nat) : Bool × Machine :=
  if pid = shellPid then
    if m.shellEnded.isSome ∨ m.shellLeft then (false, m)
    else if m.shielded.contains signal ∨ Signal.passesOver signal ∨ signal = Signal.stop then
      (true, m)
    else (true, { m with shellEnded := some signal })
  else if pid = nobody then (true, m)
  else
    match m.process? pid with
    | none => (false, m)
    | some p =>
        if !p.isAlive ∧ m.isWaiting p.parent then (false, m)
        else if signal = 0 then (true, m)
        else (true, (m.collect pid).bury (p.receive signal))

/-- Whether some process can still write to a pipe. -/
def isFed (m : Machine) (pipe : NodeId) : Bool :=
  m.processes.any fun p => p.handles.any (m.storage.writesTo pipe ·)

/-- Whether there is something to read in an open file, be it the end, once `enough` is ahead. -/
def isReadable (m : Machine) (handle : Handle) (enough : Bytes → Bool) : Bool :=
  match m.storage.pipeOf? handle with
  | none => true
  | some pipe => (m.storage.ahead handle).toOption.any enough || !m.isFed pipe

/-- Whether a process has come to its end, or is gone. -/
def isOver (m : Machine) (pid : ProcessId) : Bool :=
  (m.process? pid).all fun p => !p.isAlive

/-- Whether a process can do its next task now. -/
def allows (m : Machine) (p : Process) : Bool :=
  match p.tasks with
  | .await pids _ :: _ => pids.all m.isOver
  | .interpret handle :: _ => m.isReadable handle fun _ => false
  | .collect reading pid :: _ => m.isReadable reading (fun _ => false) && m.isOver pid
  | .readLine handle .. :: _ => !p.pending.isEmpty || m.isReadable handle (·.contains 10)
  | .copy { source := some handle, .. } :: _ => m.isReadable handle (!·.isEmpty)
  | .wake time :: _ => time ≤ m.clock
  | _ => true

def canGoOn (m : Machine) (p : Process) : Bool :=
  p.isAlive && p.motion = .going && m.allows p

/-- Whether a signal has come to a process that was told to wait. -/
def isCalled (p : Process) : Bool :=
  match p.tasks with
  | .await _ wait :: _ => p.motion = .going && wait ≠ .command && !p.pending.isEmpty
  | _ => false

/-- Whether it is a process's turn. A signal ends a wait only once nobody else can go on: until then
what is waited for may come as well. -/
def isReady (m : Machine) (p : Process) : Bool :=
  m.canGoOn p || (isCalled p && !m.processes.any m.canGoOn)

end Machine

end LineShell

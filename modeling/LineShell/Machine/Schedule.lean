import LineShell.Machine.Process.Step

/-!
Letting processes run. Those that are ready take turns; when none is, or others have waited for a
long time, the clock goes on to the end of the next pause.
-/
namespace LineShell.Machine

def advance (m : Machine) (pid : ProcessId) : Machine :=
  match m.process? pid with
  | none => m
  | some p =>
      if m.isReady p then
        let (_, scene) := ProcessM.step.run { self := p, machine := m.collect pid }
        scene.machine.bury scene.self
      else m

def anyReady (m : Machine) : Bool :=
  m.processes.any m.isReady

def round (m : Machine) : Machine :=
  (m.processes.map (·.pid)).foldl advance m

def wakeTime? (p : Process) : Option Nat :=
  match p.tasks with
  | .wake time :: _ => if p.isAlive && p.motion = .going then some time else none
  | _ => none

/-- The end of the pause that ends first. -/
def nextWake? (m : Machine) : Option Nat :=
  (m.processes.filterMap wakeTime?).min?

def skipPause (m : Machine) : Machine :=
  match m.nextWake? with
  | some time => { m.settle with clock := max m.clock time }
  | none => m

/-- More rounds than most programs take to come to an end. -/
def longTime : Nat := 50000

/-- Lets processes run, and time pass, until `done` holds or nothing is left to run; `busy` rounds
have passed since the clock was looked at. -/
def runUntil (done : Machine → Bool) : (rounds busy : Nat) → Machine → Machine
  | 0, _, m => m
  | rounds + 1, busy, m =>
      if done m then m
      else if m.anyReady then
        if busy < longTime then runUntil done rounds (busy + 1) m.round
        else runUntil done rounds 0 m.round.skipPause
      else if m.nextWake?.isSome then runUntil done rounds 0 m.skipPause
      else m

/-- More rounds than any program that ends is meant to take. -/
def patience : Nat := 4000000

/-- Waits for the end of a process, as long as the shell is there to wait. -/
def await (m : Machine) (pid : ProcessId) : Machine :=
  runUntil (fun m => m.shellEnded.isSome || m.isOver pid) patience 0 m

def awaitAll (m : Machine) : Machine :=
  runUntil (fun m => m.processes.all fun p => !p.isAlive) patience 0 m

/-- Takes the shell away after its end; what it has started goes on without it. -/
def dismissShell (m : Machine) : Machine :=
  let orphaned := fun (p : Process) =>
    if p.parent ≠ shellPid then some p
    else if p.isAlive then some { p with parent := nobody }
    else none
  { m with processes := m.processes.filterMap orphaned, shellLeft := true }

/-- Lets everything that still runs come to its end, the shell among it if it has not `ended`. -/
def windUp (ended : Bool) (m : Machine) : Machine :=
  (if ended then m.dismissShell else m).awaitAll

def kill (m : Machine) (pid : ProcessId) : Machine :=
  (m.signal pid Signal.kill).2

end LineShell.Machine

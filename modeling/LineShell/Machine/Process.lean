import LineShell.Machine.Context
import LineShell.Machine.Script.Tokens
import LineShell.Machine.Signal

/-!
A process: what its program runs in, and the tasks that it still has. Some tasks only bring back
what was changed for a while; they are not left out when a script leaves a loop or a function.
-/
namespace LineShell.Machine

/-- How a script is run. -/
structure Manner where
  /-- Nothing comes after it in its process. -/
  final : Bool := false
  /-- It is asked whether the script succeeds. -/
  tested : Bool := false
  deriving DecidableEq, Repr

/-- A variable as it was. -/
structure Saved where
  name : String
  value : Option ByteText
  exported : Bool
  deriving DecidableEq, Repr

/-- How the output of a copy is marked up. -/
structure CopyStyle where
  numbered : Bool := false
  /-- Empty lines get no number. -/
  sparing : Bool := false
  squeezed : Bool := false
  endsShown : Bool := false
  tabsShown : Bool := false
  /-- Characters that cannot be printed are spelled out. -/
  spelled : Bool := false
  deriving DecidableEq, Repr

/-- Where a copy stands in its text. -/
inductive CopyPlace where
  | inLine
  /-- At the beginning of a line, after so many empty ones. -/
  | atStart (empty : Nat)
  deriving DecidableEq, Repr

/-- A copy of files that is under way. -/
structure Copying where
  style : CopyStyle
  operands : List ByteText
  usesInput : Bool
  /-- The file that is open. -/
  source : Option Handle := none
  line : Nat := 0
  place : CopyPlace := .atStart 0
  good : Bool := true
  deriving DecidableEq, Repr

/-- How a script waits for processes: for a command that it runs, of which it takes the status, or
because it was told to, for a job and then for the others that arguments mean, or for all jobs,
where a signal may cut it short. -/
inductive Waiting where
  | command
  | job (number : Nat) (others : List ByteText)
  | all
  deriving DecidableEq, Repr

inductive Task where
  /-- The lines of a script that were not run yet. -/
  | source (lexemes : List Lexeme) (manner : Manner)
  /-- A script, and what the scripts in its words have put out so far. -/
  | run (script : Script) (manner : Manner) (outputs : List ByteText)
  /-- A command whose words are known and whose redirections are made. -/
  | command (assignments : List (String × Word)) (words : List ByteText) (manner : Manner)
      (outputs : List ByteText)
  | whenGood (script : Script) (manner : Manner)
  | whenBad (script : Script) (manner : Manner)
  | negate
  | choose (yes no : Script) (manner : Manner)
  /-- A loop, whose condition has just run if `judging`. -/
  | loop (whileGood : Bool) (condition body : Script) (manner : Manner) (last : Nat)
      (judging : Bool)
  | forEach (line : Nat) (name : String) (values : List ByteText) (body : Script)
      (manner : Manner)
  /-- Ends the process if the last command has failed. -/
  | verify
  /-- Runs what is to be run on the signals that came during a command. -/
  | traps
  /-- Goes back to other open files. -/
  | restore (descriptors : List (Nat × Handle))
  /-- Gives variables back what they had. -/
  | recover (saved : List Saved)
  | endFunction (params : List ByteText) (locals : List Saved)
  | endFile
  | endBuiltin (outer : Option ByteText)
  /-- Goes on with another status. -/
  | resume (status : Nat)
  /-- Waits until processes have ended. -/
  | await (pids : List ProcessId) (wait : Waiting)
  /-- Takes the output of a process for the task after this one. -/
  | collect (reading : Handle) (pid : ProcessId)
  /-- Reads a line into variables. -/
  | readLine (handle : Handle) (raw : Bool) (names : List String)
  | use (tool : Tool) (args : List ByteText)
  /-- Reads a script from an open file. -/
  | interpret (handle : Handle)
  | copy (copying : Copying)
  | wake (time : Nat)
  /-- Runs what is to be run at the end, and ends the process. -/
  | finish
  | conclude (status : Nat)

namespace Task

def handles : Task → List Handle
  | .restore descriptors => descriptors.map (·.2)
  | .collect reading _ => [reading]
  | .readLine handle .. | .interpret handle => [handle]
  | .copy copying => copying.source.toList
  | _ => []

def withOutput (output : ByteText) : Task → Task
  | .run script manner outputs => .run script manner (outputs ++ [output])
  | .command assignments words manner outputs =>
      .command assignments words manner (outputs ++ [output])
  | task => task

def isLoop : Task → Bool
  | .loop .. | .forEach .. => true
  | _ => false

def isFunctionEnd : Task → Bool
  | .endFunction .. => true
  | _ => false

def isFileEnd : Task → Bool
  | .endFile => true
  | _ => false

end Task

namespace Context

def save (c : Context) (name : String) : Saved :=
  { name, value := c.bindings.find? name, exported := c.exported.contains name }

def recover (c : Context) (saved : Saved) : Context :=
  let c := match saved.value with
    | some value => c.setVariable saved.name value
    | none => c.unsetVariable saved.name
  if saved.exported then c.markExported saved.name
  else { c with exported := c.exported.filter (· ≠ saved.name) }

def undo (c : Context) : Task → Context
  | .restore descriptors => { c with descriptors }
  | .recover saved => saved.foldl recover c
  | .endFunction params locals => { locals.foldl recover c with params }
  | .endBuiltin outer => { c with builtin := outer }
  | _ => c

/-- Leaves tasks up to the first that is asked for, which stays; none if there is no such task. -/
def leaveTo? (isGoal : Task → Bool) : List Task → Context → Option (List Task × Context)
  | [], _ => none
  | task :: rest, c =>
      if isGoal task then some (task :: rest, c) else leaveTo? isGoal rest (c.undo task)

/-- What a part of a script that runs in a process of its own keeps: signals are kept off there
too, but nothing is run on them. -/
def forked (c : Context) : Context :=
  { c with traps := c.traps.filter (·.2 = ""), jobs := [] }

end Context

/-- Whether a process goes on. One that was told to stop takes notice of it only a while later, and
until then of other signals too. -/
inductive Motion where
  | going
  | stopping
  | stopped
  deriving DecidableEq, Repr

/-- How a process ends: with a code that fits in a byte, or by a signal. -/
inductive End where
  | exited (code : Fin 256)
  | killed (signal : Nat) (known : 0 < signal ∧ signal < Signal.count)

def End.status : End → WaitStatus
  | exited code => .ofCode (Int32.ofNat code)
  | killed signal _ => .ofSignal signal

structure Process where
  pid : ProcessId
  parent : ProcessId
  context : Context
  tasks : List Task
  /-- Signals that are kept off for good. -/
  ignored : List Nat := []
  /-- Signals that came and have not been dealt with. -/
  pending : List Nat := []
  motion : Motion := .going
  ended : Option End := none

namespace Process

def isAlive (p : Process) : Bool :=
  p.ended.isNone

def handles (p : Process) : List Handle :=
  if p.isAlive then p.context.descriptors.map (·.2) ++ p.tasks.flatMap Task.handles else []

def finishWith (p : Process) (how : End) : Process :=
  { p with tasks := [], ended := some how }

/-- Takes a signal as a process that is not stopped: it is kept off, left to a trap, without
effect, or the end. -/
def take (p : Process) (signal : Nat) : Process :=
  if p.ignored.contains signal then p
  else
    match p.context.traps.lookup signal with
    | some "" => p
    | some _ =>
        if p.pending.contains signal then p else { p with pending := p.pending ++ [signal] }
    | none =>
        if h : Signal.passesOver signal then p
        else p.finishWith (.killed signal (Signal.known_of_not_passesOver h))

/-- A signal to a process. A stopped process takes it when it goes on. -/
def receive (p : Process) (signal : Nat) : Process :=
  if !p.isAlive then p
  else if signal = Signal.kill then p.finishWith (.killed Signal.kill (by decide))
  else if signal = Signal.stop then
    { p with motion := if p.motion = .stopped then .stopped else .stopping }
  else if signal = Signal.goOn then
    let (waiting, pending) := if p.motion = .stopped then (p.pending, []) else ([], p.pending)
    (waiting ++ [signal]).foldl take { p with motion := .going, pending }
  else if p.motion = .stopped then { p with pending := p.pending ++ [signal] }
  else p.take signal

def settle (p : Process) : Process :=
  if p.motion = .stopping then { p with motion := .stopped } else p

def keptOff (p : Process) : List Nat :=
  p.ignored ++ (p.context.traps.filter fun trap => trap.2 = "" && trap.1 ≠ 0).map (·.1)

end Process

end LineShell.Machine

import LineShell.Environment
import LineShell.Job.Table
import LineShell.Status

/-!
What the shell asks of the system it runs on. `σ` is the state of that system; an operation that
may change it gives the new state with its result. Nothing is assumed of the answers.
-/
namespace LineShell

/-- An open file or stream. -/
abbrev Handle := Nat

namespace Handle

def input : Handle := 0

def output : Handle := 1

def errors : Handle := 2

end Handle

/-- The streams of a command that do not come from the shell. -/
structure Streams where
  input : Option Handle := none
  output : Option Handle := none
  errors : Option Handle := none
  deriving DecidableEq, Repr

/-- A program to start: its file, the name it goes by, and what it is given. A shielded one is not
ended by the interrupts of the keyboard. -/
structure Program where
  path : String
  name : String
  args : List String
  environment : Environment
  streams : Streams
  shielded : Bool
  deriving DecidableEq, Repr

structure Host (σ : Type) where
  /-- The user's home directory. The variables may name it, and the system may know it without
  them. -/
  homeDir : Environment → σ → Option String
  /-- The path of the working directory, which may be gone. -/
  currentDir : σ → Except IoError String
  /-- Makes a directory the working directory, or changes nothing. -/
  enterDir : String → σ → Except IoError σ
  /-- All bytes that there are to read under a path. -/
  readFile : String → σ → Except IoError Bytes × σ
  /-- Gives a file this content, whatever it held. -/
  replaceFile : String → Bytes → σ → Except IoError Unit × σ
  /-- Whether the path names a file that can be run. -/
  isExecutable : String → σ → Bool
  openInput : String → σ → Except IoError Handle × σ
  /-- Opens a file for writing, at its end or emptied; a missing one is made. -/
  openOutput : (append : Bool) → String → σ → Except IoError Handle × σ
  write : Handle → Writer σ
  /-- Sends on what was written to the shell's own output and is still held back. -/
  flush : σ → Except IoError Unit × σ
  /-- The next line of the shell's own input, with its newline if it has one, or the end. The prompt
  for it is written first if it is to be shown. -/
  readLine : (shown : Bool) → (prompt : String) → σ → Except IoError (Option String) × σ
  /-- Starts a program and does not wait. -/
  start : Program → σ → Except IoError ProcessId × σ
  /-- Starts a program and waits for its end. -/
  run : Program → σ → Except IoError WaitStatus × σ
  probe : Probe σ
  /-- Keeps the interrupts of the keyboard off the shell itself. -/
  shield : σ → σ

/-- A system with something kept beside it that it does not touch. -/
def Host.beside {σ : Type} (τ : Type) (h : Host σ) : Host (σ × τ) where
  homeDir env s := h.homeDir env s.1
  currentDir s := h.currentDir s.1
  enterDir path s := (h.enterDir path s.1).map (·, s.2)
  readFile path s := carry s (h.readFile path s.1)
  replaceFile path bytes s := carry s (h.replaceFile path bytes s.1)
  isExecutable path s := h.isExecutable path s.1
  openInput path s := carry s (h.openInput path s.1)
  openOutput append path s := carry s (h.openOutput append path s.1)
  write handle text s := carry s (h.write handle text s.1)
  flush s := carry s (h.flush s.1)
  readLine shown prompt s := carry s (h.readLine shown prompt s.1)
  start program s := carry s (h.start program s.1)
  run program s := carry s (h.run program s.1)
  probe pid s := carry s (h.probe pid s.1)
  shield s := (h.shield s.1, s.2)
where
  carry {α : Type} (s : σ × τ) (result : α × σ) : α × (σ × τ) :=
    (result.1, (result.2, s.2))

def Sink.writerBeside {σ : Type} : Writer (σ × Sink) := fun text s =>
  let (result, sink) := s.2.write text
  (result, (s.1, sink))

end LineShell

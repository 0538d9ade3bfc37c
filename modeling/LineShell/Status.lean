import LineShell.Text.Quoted

/-!
How a process ended, as the 32-bit word a parent gets from waiting for it. The low seven bits are
zero after an exit, whose code is in the second byte, and otherwise hold the signal.
-/
namespace LineShell

structure WaitStatus where
  raw : UInt32
  deriving DecidableEq, Repr

def signalName? : Nat → Option String
  | 1 => some "SIGHUP"
  | 2 => some "SIGINT"
  | 3 => some "SIGQUIT"
  | 4 => some "SIGILL"
  | 5 => some "SIGTRAP"
  | 6 => some "SIGABRT"
  | 7 => some "SIGBUS"
  | 8 => some "SIGFPE"
  | 9 => some "SIGKILL"
  | 10 => some "SIGUSR1"
  | 11 => some "SIGSEGV"
  | 12 => some "SIGUSR2"
  | 13 => some "SIGPIPE"
  | 14 => some "SIGALRM"
  | 15 => some "SIGTERM"
  | 16 => some "SIGSTKFLT"
  | 17 => some "SIGCHLD"
  | 18 => some "SIGCONT"
  | 19 => some "SIGSTOP"
  | 20 => some "SIGTSTP"
  | 21 => some "SIGTTIN"
  | 22 => some "SIGTTOU"
  | 23 => some "SIGURG"
  | 24 => some "SIGXCPU"
  | 25 => some "SIGXFSZ"
  | 26 => some "SIGVTALRM"
  | 27 => some "SIGPROF"
  | 28 => some "SIGWINCH"
  | 29 => some "SIGIO"
  | 30 => some "SIGPWR"
  | 31 => some "SIGSYS"
  | _ => none

namespace WaitStatus

/-- The status of a process that exits with this code; bits above the low 24 are lost. -/
def ofCode (code : Int32) : WaitStatus :=
  ⟨code.toUInt32 <<< 8⟩

def ofSignal (signal : Nat) : WaitStatus :=
  ⟨UInt32.ofNat signal⟩

def success : WaitStatus := ofCode 0

def failure : WaitStatus := ofCode 1

def isSuccess (s : WaitStatus) : Bool :=
  s.raw == 0

private def low (s : WaitStatus) : Nat :=
  (s.raw &&& 0x7F).toNat

private def second (s : WaitStatus) : Nat :=
  ((s.raw >>> 8) &&& 0xFF).toNat

def exitCode? (s : WaitStatus) : Option Nat :=
  if s.low = 0 then some s.second else none

def signal? (s : WaitStatus) : Option Nat :=
  if s.low = 0 ∨ s.low = 0x7F then none else some s.low

def dumpedCore (s : WaitStatus) : Bool :=
  s.raw &&& 0x80 != 0

def stopSignal? (s : WaitStatus) : Option Nat :=
  if s.raw &&& 0xFF == 0x7F then some s.second else none

/-- The code a shell reports: the exit code, or 128 and the signal, or 1. -/
def shellCode (s : WaitStatus) : Nat :=
  match s.exitCode?, s.signal? with
  | some code, _ => code
  | none, some signal => 128 + signal
  | none, none => 1

private def withName (signal : Nat) : String :=
  match signalName? signal with
  | some name => toString signal ++ " (" ++ name ++ ")"
  | none => toString signal

def message (s : WaitStatus) : String :=
  if let some code := s.exitCode? then "exit status: " ++ toString code
  else if let some signal := s.signal? then
    "signal: " ++ withName signal ++ (if s.dumpedCore then " (core dumped)" else "")
  else if let some signal := s.stopSignal? then
    "stopped (not terminated) by signal: " ++ withName signal
  else if s.raw == 0xFFFF then "continued (WIFCONTINUED)"
  else
    "unrecognised wait status: " ++ toString s.raw.toInt32 ++ " 0x" ++
      Text.hexadecimal s.raw.toNat

end WaitStatus

end LineShell

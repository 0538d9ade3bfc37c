import LineShell.Status

/-!
Signals: their names in the command language, what they do to a process that has made no choice,
and what is said of a program that one has ended.
-/
namespace LineShell.Machine.Signal

def interrupt : Nat := 2

def quit : Nat := 3

def kill : Nat := 9

def pipe : Nat := 13

def terminate : Nat := 15

/-- Tells a process of the end of a child. -/
def child : Nat := 17

def goOn : Nat := 18

def stop : Nat := 19

/-- One more than the last number of a signal. -/
def count : Nat := 65

/-- The first and the last number of the signals without a fixed use. -/
def firstFree : Nat := 34

def lastFree : Nat := 64

/-- A signal that the command language knows by its number only. -/
def nameless : Nat := 16

/-- The name of a signal, without the letters that all names begin with. -/
def name (signal : Nat) : String :=
  match (signalName? signal).filter fun _ => signal ≠ nameless with
  | some name => String.ofList (name.toList.drop 3)
  | none =>
      if signal = 0 then "EXIT"
      else if signal = firstFree then "RTMIN"
      else if signal = lastFree then "RTMAX"
      else if firstFree < signal ∧ signal ≤ 49 then "RTMIN+" ++ toString (signal - firstFree)
      else if 49 < signal ∧ signal < lastFree then "RTMAX-" ++ toString (lastFree - signal)
      else toString signal

def ofText? (least : Nat) (text : String) : Option Nat :=
  if text ≠ "" ∧ text.toList.all Char.isDigit then text.toNat?.filter (· < count)
  else
    let text := text.map Char.toUpper
    (List.range count).find? fun signal => least ≤ signal && name signal = text

/-- Signals that pass over a process that has made no choice, and numbers that are no signal's. The
stops of a terminal do too, since there is none. -/
def passesOver (signal : Nat) : Bool :=
  count ≤ signal || [0, 17, 18, 20, 21, 22, 23, 28].contains signal

theorem known_of_not_passesOver {signal : Nat} (h : ¬passesOver signal) :
    0 < signal ∧ signal < count := by
  simp only [passesOver, Bool.or_eq_true, decide_eq_true_eq, not_or, Nat.not_le] at h
  refine ⟨Nat.pos_of_ne_zero ?_, h.1⟩
  rintro rfl
  exact h.2 rfl

def description (signal : Nat) : String :=
  match signal with
  | 1 => "Hangup"
  | 2 => "Interrupt"
  | 3 => "Quit"
  | 4 => "Illegal instruction"
  | 5 => "Trace/breakpoint trap"
  | 6 => "Aborted"
  | 7 => "Bus error"
  | 8 => "Floating point exception"
  | 9 => "Killed"
  | 10 => "User defined signal 1"
  | 11 => "Segmentation fault"
  | 12 => "User defined signal 2"
  | 13 => "Broken pipe"
  | 14 => "Alarm clock"
  | 15 => "Terminated"
  | 16 => "Stack fault"
  | 24 => "CPU time limit exceeded"
  | 25 => "File size limit exceeded"
  | 26 => "Virtual timer expired"
  | 27 => "Profiling timer expired"
  | 29 => "I/O possible"
  | 30 => "Power failure"
  | 31 => "Bad system call"
  | _ =>
      if firstFree ≤ signal ∧ signal ≤ lastFree then
        "Real-time signal " ++ toString (signal - firstFree)
      else "Unknown signal " ++ toString signal

end LineShell.Machine.Signal

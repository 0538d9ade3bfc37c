import LineShell.LineError

/-!
A line as words. Spaces and tabs separate words. In single quotes every character stands for
itself; elsewhere a backslash takes the next character as it is. Quotes and escaping backslashes
are not part of a word, and a word of quotes alone is dropped.
-/
namespace LineShell

/-- A scan of a line from the left: which quotes are open, whether a backslash waits for its
character, the word begun, its newest character first, and the words before it, the newest first. -/
structure Scanner where
  single : Bool := false
  double : Bool := false
  escaped : Bool := false
  word : List Char := []
  words : List String := []
  deriving DecidableEq, Repr

namespace Scanner

def push (s : Scanner) (c : Char) : Scanner :=
  { s with word := c :: s.word }

/-- Ends the word begun; an empty one leaves no trace. -/
def flush (s : Scanner) : Scanner :=
  if s.word.isEmpty then s
  else { s with word := [], words := String.ofList s.word.reverse :: s.words }

/-- Reads one character. Inside single quotes only their end has a meaning; inside double quotes
only their end and a backslash have one. -/
def step (s : Scanner) (c : Char) : Scanner :=
  if s.escaped then { s.push c with escaped := false }
  else if s.single then
    if c = '\x27' then { s with single := false } else s.push c
  else if c = '\\' then { s with escaped := true }
  else if s.double then
    if c = '"' then { s with double := false } else s.push c
  else if c = '\x27' then { s with single := true }
  else if c = '"' then { s with double := true }
  else if c = ' ' ∨ c = '\t' then s.flush
  else s.push c

def scan (s : Scanner) (text : List Char) : Scanner :=
  text.foldl step s

/-- The words of a finished scan. An open quote is reported before a waiting backslash. -/
def finish (s : Scanner) : Except LineError (List String) :=
  if s.single ∨ s.double then .error .unterminatedQuote
  else if s.escaped then .error .trailingEscape
  else .ok s.flush.words.reverse

@[simp] theorem scan_nil (s : Scanner) : s.scan [] = s := rfl

@[simp] theorem scan_cons (s : Scanner) (c : Char) (text : List Char) :
    s.scan (c :: text) = (s.step c).scan text := rfl

theorem scan_append (s : Scanner) (a b : List Char) : s.scan (a ++ b) = (s.scan a).scan b := by
  simp [scan]

end Scanner

def tokenize (line : String) : Except LineError (List String) :=
  (({} : Scanner).scan line.toList).finish

end LineShell

import LineShell.Text.Blank
import LineShell.Text.Lines
import LineShell.Text.Split

/-!
The lines entered, the last `capacity` of them, and the file that keeps them from one session to
the next. An entry that repeats the one before it, is empty or begins with a blank is not kept.
In the file each entry is a line; backslashes and newlines in it are written with a backslash.
-/
namespace LineShell

structure History where
  capacity : Nat
  entries : List String := []
  /-- Whether an entry has come in since the file was read. -/
  grown : Bool := false
  deriving DecidableEq, Repr

namespace History

def takes (history : History) (entry : String) : Bool :=
  history.capacity ≠ 0 &&
    (match entry.toList with
      | [] => false
      | c :: _ => !Text.isBlank c) &&
    history.entries.getLast? ≠ some entry

def add (history : History) (entry : String) : History :=
  if history.takes entry then
    let entries := history.entries ++ [entry]
    { history with entries := entries.drop (entries.length - history.capacity), grown := true }
  else history

/-- The first line of a file whose entries are escaped. -/
def fileMark : String := "#V2"

def escapeEntry (entry : String) : String :=
  String.ofList <| entry.toList.flatMap fun c =>
    if c = '\\' then ['\\', '\\'] else if c = '\n' then ['\\', 'n'] else [c]

/-- Undoes the escapes of a line, if all are well formed; `done` is what stands before it, its
newest character first. -/
def unescapeAfter? (done : List Char) : List Char → Option (List Char)
  | [] => some done.reverse
  | '\\' :: 'n' :: rest => unescapeAfter? ('\n' :: done) rest
  | '\\' :: '\\' :: rest => unescapeAfter? ('\\' :: done) rest
  | c :: rest => if c = '\\' then none else unescapeAfter? (c :: done) rest

/-- The entry on a line of the file; a bad escape leaves the line as it is. -/
def entryOfLine (line : String) : String :=
  match unescapeAfter? [] line.toList with
  | some entry => String.ofList entry
  | none => line

/-- Adds the entries of a file. Without the mark its lines are not escaped. -/
def load (history : History) (text : String) : History :=
  let entries := match Text.lines text with
    | [] => []
    | first :: rest => if first = fileMark then rest.map entryOfLine else first :: rest
  { entries.foldl add history with grown := false }

def fileText (history : History) : String :=
  String.join ((fileMark :: history.entries.map escapeEntry).map (· ++ "\n"))

/-- What to write when a session ends: nothing, if it brought no entry. -/
def saved? (history : History) : Option String :=
  if history.grown ∧ history.entries ≠ [] then some history.fileText else none

end History

end LineShell

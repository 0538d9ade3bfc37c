import LineShell.Machine.Process.Action
import LineShell.Text.Numeral

/-!
What the commands that the command language runs in its own process have in common. Such a command
has a status, or leaves tasks behind that will set one, or fails with a problem.
-/
namespace LineShell.Machine

abbrev Action := ExceptT ByteText ProcessM (Option Nat)

namespace Action

open ProcessM

def status (n : Nat) : Action :=
  pure (some n)

def later (tasks : List Task) : Action := do
  push tasks
  pure none

/-- Writes a text to the output; where there is nothing to write, nothing can fail. -/
def emit (text : ByteText) : Action := do
  if text = "" then status 0
  else
    match ← writeText 1 text with
    | .ok _ => status 0
    | .error _ => do
        complainHere (((← context).builtin.getD "") ++ ": I/O error")
        status 1

def maxNatural : Nat := UInt32.size / 2 - 1

def natural (arg : ByteText) : ExceptT ByteText ProcessM Nat := do
  match (Text.natural? arg.toList).filter (· ≤ maxNatural) with
  | some n => pure n
  | none => throw ("Illegal number: " ++ arg)

/-- The options of single letters at the front of arguments, of which some are known, and the
other arguments. -/
def options (known : List Char) : List ByteText →
    ExceptT ByteText ProcessM (List Char × List ByteText)
  | [] => pure ([], [])
  | arg :: rest =>
      match arg.toList with
      | ['-', '-'] => pure ([], rest)
      | '-' :: c :: more =>
          match (c :: more).find? (!known.contains ·) with
          | some letter => throw ("Illegal option -" ++ letter.toString)
          | none => do
              let (letters, rest) ← options known rest
              pure (c :: more ++ letters, rest)
      | _ => pure ([], arg :: rest)

/-- A text as the command language would take it, whatever it holds. -/
def quoted (text : ByteText) : ByteText :=
  let stretch := fun (chars : List Char) => "'" ++ String.ofList chars ++ "'"
  let rec go : (fuel : Nat) → List Char → ByteText
    | 0, _ | _ + 1, [] => ""
    | fuel + 1, c :: rest =>
        if c = '\'' then
          let quotes := (c :: rest).takeWhile (· = '\'')
          "\"" ++ String.ofList quotes ++ "\"" ++ go fuel ((c :: rest).drop quotes.length)
        else
          let plain := (c :: rest).takeWhile (· ≠ '\'')
          stretch plain ++ go fuel ((c :: rest).drop plain.length)
  if text = "" then "''" else go (text.length + 1) text.toList

/-- Gives a variable a value, unless it must not have another one. -/
def assign (name : String) (value : ByteText) : ExceptT ByteText ProcessM Unit := do
  if (← context).readOnly.contains name then throw (name ++ ": is read only")
  modifyContext (·.setVariable name value)

def nameAndValue (arg : ByteText) :
    ExceptT ByteText ProcessM (String × Option ByteText) := do
  let (name, value) := match Text.cut? '=' arg.toList with
    | some (name, value) => (String.ofList name, some (String.ofList value))
    | none => (arg, none)
  if isIdentifier name then pure (name, value) else throw (name ++ ": bad variable name")

end Action

end LineShell.Machine

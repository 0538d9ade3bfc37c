import LineShell.Text.Split

/-!
Variables of the shell and of the programs that it starts. Each has a name and a value; a name that
holds an equals sign reaches into the value of the variable before the sign.
-/
namespace LineShell

structure Environment where
  entries : List (String × String) := []
  deriving DecidableEq, Repr

namespace Environment

def find? (env : Environment) (name : String) : Option String :=
  (env.entries.find? (·.1 = name)).map (·.2)

/-- The text after `name` and an equals sign in the line of some variable. A variable's line is
its name, an equals sign and its value, so names without a sign find that variable's value. -/
def get? (env : Environment) (name : String) : Option String :=
  match Text.cut? '=' name.toList with
  | none => if name = "" then none else env.find? name
  | some (owner, start) => do
      let value ← env.find? (String.ofList owner)
      let front := start ++ ['=']
      if owner ≠ [] ∧ front.isPrefixOf value.toList then
        some (String.ofList (value.toList.drop front.length))
      else none

def set (env : Environment) (name value : String) : Environment :=
  if env.entries.any (·.1 = name) then
    { entries := env.entries.map fun entry => if entry.1 = name then (name, value) else entry }
  else { entries := env.entries ++ [(name, value)] }

def unset (env : Environment) (name : String) : Environment :=
  { entries := env.entries.filter (·.1 ≠ name) }

def sorted (env : Environment) : List (String × String) :=
  env.entries.mergeSort fun a b => a.1 < b.1 || (a.1 == b.1 && a.2 ≤ b.2)

end Environment

/-- A name that a reference without braces can name, not beginning with a digit. -/
def isIdentifier (name : String) : Bool :=
  match name.toList with
  | [] => false
  | c :: rest => (c.isAlpha || c = '_') && rest.all fun c => c.isAlphanum || c = '_'

end LineShell

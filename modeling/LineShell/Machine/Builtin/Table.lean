import LineShell.Machine.Builtin.Control
import LineShell.Machine.Builtin.Directory
import LineShell.Machine.Builtin.Format
import LineShell.Machine.Builtin.OptionWord
import LineShell.Machine.Builtin.Permission
import LineShell.Machine.Builtin.Variables
import LineShell.Machine.Check

/-!
The commands that the command language runs in its own process, by name. A problem of one that is
special ends the script; `exec` and `command`, which run others, are not here.
-/
namespace LineShell.Machine

structure ScriptBuiltin where
  special : Bool
  run : (tested : Bool) → List ByteText → Action

namespace Builtins

open ProcessM Machine.Action

def echo (args : List ByteText) : Action :=
  let (lineEnd, args) := match args with
    | "-n" :: args => ("", args)
    | args => ("\n", args)
  let (text, cut) := Escape.replaceAll args
  emit (text ++ if cut then "" else lineEnd)

def warn : List ByteText → ProcessM Unit
  | [] => pure ()
  | warning :: rest => do
      complainHere warning
      warn rest

def printFormatted (args : List ByteText) : Action := do
  match (← options [] args).2 with
  | [] => throw "usage: printf format [arg ...]"
  | format :: args =>
      let formatted := Formatting.run format args
      warn (formatted.warnings.reverse ++ formatted.problem.toList)
      let written ← emit formatted.text
      if formatted.problem.isSome then status 2
      else if formatted.warnings = [] then pure written
      else status 1

/-- Tests a condition; between brackets, the closing one must be there. -/
def test (bracketed : Bool) (args : List ByteText) : Action := do
  let closed := (args.getLast?.bind (·.toList.head?)) = some ']'
  if bracketed ∧ !closed then throw "missing ]"
  let words := if bracketed then args.dropLast else args
  let subject : Check.Subject := ⟨(← files).tree, ← viewpoint⟩
  match Check.holds subject false words with
  | .ok holds => status (if holds then 0 else 1)
  | .error problem => throw problem

/-- The options that are on and off, as a table or as commands that would set them. -/
def listOptions (c : Context) (asTable : Bool) : ByteText :=
  let line := fun (name : String) (on : Bool) =>
    if asTable then name ++ "".pushn ' ' (16 - name.length) ++ (if on then "on" else "off") ++ "\n"
    else "set " ++ (if on then "-o " else "+o ") ++ name ++ "\n"
  (if asTable then "Current option settings\n" else "") ++
    String.join (optionNames.map fun (name, letter) => line name (c.hasOption letter)) ++
    line "nolog" false ++ line "debug" false

def set (args : List ByteText) : Action := do
  let c ← context
  if args = [] then emit (assignments "" (c.bindings.entries.map (·.1)) c)
  else if args = ["-o"] ∨ args = ["+o"] then emit (listOptions c (args = ["-o"]))
  else
    match readOptions (args.length + 1) c.options args with
    | .error problem => throw problem
    | .ok (options, params) => do
        modifyContext fun c => { c with options }
        if options.contains 'm' ∧ (← self).pid = c.scriptPid then giveUpControl c.line
        if let some params := params then
          modifyContext fun c => { c with params, optionPlace := {} }
        status 0

def seek (so : Nat) : List ByteText → Action
  | [] => status so
  | name :: rest => do
      let c ← context
      let storage ← files
      if (pathsOf c name).any (isRunnable storage c ·) then
        modifyContext (·.remember name)
        seek so rest
      else
        complainHere (name ++ ": " ++ absence storage c name)
        seek 1 rest

/-- Lists the programs that are kept in mind, forgets them, or looks for others. -/
def hash (args : List ByteText) : Action := do
  let (letters, args) ← options ['r'] args
  if letters ≠ [] then
    modifyContext fun c => { c with remembered := [] }
    status 0
  else if args = [] then
    let c ← context
    let storage ← files
    let paths := c.remembered.filterMap fun name => (pathsOf c name).find? (isRunnable storage c ·)
    emit (String.join (paths.map (· ++ "\n")))
  else seek 0 args

/-- Names that stand for other words are not kept: looking for one finds none. -/
def lookForAliases (args : List ByteText) : Action := do
  let name := (← context).builtin.getD ""
  match args.filter fun arg => !arg.toList.contains '=' with
  | [] => status 0
  | missing => do
      for arg in missing do
        complain (name ++ ": " ++ arg ++ " not found")
      status 1

def forgetAliases (args : List ByteText) : Action := do
  let (letters, args) ← options ['a'] args
  if letters ≠ [] then status 0 else lookForAliases args

def special : List (String × ((tested : Bool) → List ByteText → Action)) :=
  [(":", fun _ _ => status 0), (".", readFile), ("eval", eval),
    ("break", fun _ => leaveLoops false), ("continue", fun _ => leaveLoops true),
    ("exit", fun _ => exit), ("return", fun _ => returnFrom), ("export", fun _ => exportVars),
    ("local", fun _ => localVars), ("readonly", fun _ => fixVars), ("set", fun _ => set),
    ("shift", fun _ => shift),
    ("times", fun _ _ => emit "0m0.000000s 0m0.000000s\n0m0.000000s 0m0.000000s\n"),
    ("trap", fun _ => trap), ("unset", fun _ => unset)]

def ordinary : List (String × (List ByteText → Action)) :=
  [("true", fun _ => status 0), ("false", fun _ => status 1), ("echo", echo),
    ("printf", printFormatted), ("test", test false), ("[", test true), ("kill", kill),
    ("cd", changeDir), ("chdir", changeDir), ("pwd", printDir), ("read", read), ("wait", wait),
    ("umask", mask), ("hash", hash), ("getopts", nextOption),
    ("jobs", jobs), ("fg", moveJob), ("bg", moveJob), ("alias", lookForAliases),
    ("unalias", forgetAliases)]

end Builtins

def ScriptBuiltin.find? (name : ByteText) : Option ScriptBuiltin :=
  match Builtins.special.lookup name with
  | some run => some { special := true, run }
  | none => (Builtins.ordinary.lookup name).map fun run => { special := false, run := fun _ => run }

end LineShell.Machine

import LineShell.Builtin.Name
import LineShell.Shell

/-!
Setting and removing variables. Arguments that name no variable are passed over and reported
together at the end; the others count.
-/
namespace LineShell.Builtin

variable {σ : Type}

/-- The name and value that an argument of `export` gives; without a value it is empty. -/
def assignment? (arg : String) : Option (String × String) :=
  let (name, value) := match Text.cut? '=' arg.toList with
    | some (name, value) => (String.ofList name, String.ofList value)
    | none => (arg, "")
  if isIdentifier name ∧ ¬value.toList.contains '\x00' then some (name, value) else none

def invalidIdentifiers (builtin : Builtin) (args : List String) : ShellError :=
  let report := fun arg => builtin.name ++ ": `" ++ arg ++ "': not a valid identifier"
  .builtinFailed ("\n".intercalate (args.map report)) 1

def exportAll (env : Environment) (args : List String) : Environment :=
  (args.filterMap assignment?).foldl (fun env (name, value) => env.set name value) env

def unsetAll (env : Environment) (args : List String) : Environment :=
  (args.filter isIdentifier).foldl Environment.unset env

def runExport (write : Writer σ) (args : List String) : ShellM σ Unit := do
  if args.isEmpty then
    (← ShellM.environment).sorted.forM fun (name, value) =>
      ShellM.emit write (name ++ "=" ++ value ++ "\n")
  else
    ShellM.changeEnvironment (exportAll · args)
    let bad := args.filter fun arg => (assignment? arg).isNone
    if bad ≠ [] then ShellM.fail (invalidIdentifiers .exportVars bad)

def runUnset (args : List String) : ShellM σ Unit := do
  ShellM.changeEnvironment (unsetAll · args)
  let bad := args.filter (!isIdentifier ·)
  if bad ≠ [] then ShellM.fail (invalidIdentifiers .unsetVars bad)

end LineShell.Builtin

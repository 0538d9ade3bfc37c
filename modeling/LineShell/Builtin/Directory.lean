import LineShell.Shell

/-!
The working directory: going somewhere else, and saying where. The variables `PWD` and `OLDPWD`
hold the directory after and before the last change.
-/
namespace LineShell.Builtin

variable {σ : Type}

/-- The directory that the arguments of `cd` name: the home directory without any, the last one
for a dash, which is then written out. -/
def changeTarget (h : Host σ) (write : Writer σ) : Option String → ShellM σ String
  | none | some "~" => do
      match ← ShellM.homeDir h with
      | some home => pure home
      | none => ShellM.fail (.builtinFailed "cd: HOME not set" 1)
  | some "-" => do
      match (← ShellM.environment).get? "OLDPWD" with
      | some directory =>
          ShellM.emit write (directory ++ "\n")
          pure directory
      | none => ShellM.fail (.builtinFailed "cd: OLDPWD not set" 1)
  | some directory => pure directory

def enter (h : Host σ) (directory : String) : ShellM σ Unit := do
  let running ← get
  match h.enterDir directory running.host with
  | .ok host => set { running with host }
  | .error e => ShellM.fail (.builtinFailed ("cd: " ++ directory ++ ": " ++ e.message) 1)

def runChangeDir (h : Host σ) (write : Writer σ) (args : List String) : ShellM σ Unit := do
  if args.length > 1 then ShellM.fail (.builtinFailed "cd: too many arguments" 1)
  let directory ← changeTarget h write args.head?
  let before ← ShellM.query h.currentDir
  enter h directory
  ShellM.changeEnvironment (·.set "OLDPWD" before)
  let now ← ShellM.query h.currentDir
  ShellM.changeEnvironment (·.set "PWD" now)

def runPrintDir (h : Host σ) (write : Writer σ) : ShellM σ Unit := do
  let directory ← ShellM.query h.currentDir
  ShellM.emit write (directory ++ "\n")

end LineShell.Builtin

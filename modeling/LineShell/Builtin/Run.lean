import LineShell.Builtin.Directory
import LineShell.Builtin.Jobs
import LineShell.Builtin.Name
import LineShell.Builtin.Variables

/-!
Running a builtin by its name. Each writes to the writer that it is given, and stops at the first
write that fails.
-/
namespace LineShell.Builtin

variable {σ : Type}

def clearScreen : String := "\x1b[H\x1b[2J"

/-- The text that `echo` writes. -/
def echoText : List String → String
  | "-n" :: args => " ".intercalate args
  | args => " ".intercalate args ++ "\n"

def unmatchedTopics (topics : List String) : ShellError :=
  let report := fun topic => "help: no help topics match `" ++ topic ++ "'"
  .builtinFailed ("\n".intercalate (topics.map report)) 1

/-- Help on the topics asked for, which fails only if none of them is known. -/
def runHelp (write : Writer σ) (topics : List String) : ShellM σ Unit := do
  if topics.isEmpty then
    all.forM fun builtin => ShellM.emit write (builtin.usage ++ "\n")
  else
    (topics.filterMap ofName?).forM fun builtin => ShellM.emit write (builtin.helpText ++ "\n")
    if topics.all fun topic => (ofName? topic).isNone then ShellM.fail (unmatchedTopics topics)

/-- The status that an argument of `exit` asks for: a 64-bit number modulo 256. -/
def exitStatus? (arg : String) : Option WaitStatus :=
  (Text.signed64? arg).map fun n => .ofCode (Int32.ofInt (n.emod 256))

def runExit (h : Host σ) (args : List String) : ShellM σ Unit := do
  if args.length > 1 then ShellM.fail (.builtinFailed "exit: too many arguments" 1)
  match args.head? with
  | none => ShellM.quit h none
  | some arg =>
      match exitStatus? arg with
      | some status => ShellM.quit h (some status)
      | none =>
          ShellM.complain h ("simsh: exit: " ++ arg ++ ": numeric argument required")
          ShellM.quit h (some (.ofCode 2))

def run (h : Host σ) (write : Writer σ) (args : List String) : Builtin → ShellM σ Unit
  | .changeDir => runChangeDir h write args
  | .clear => ShellM.emit write clearScreen
  | .echo => ShellM.emit write (echoText args)
  | .exit => runExit h args
  | .exportVars => runExport write args
  | .help => runHelp write args
  | .jobs => runJobs write args
  | .printDir => runPrintDir h write
  | .unsetVars => runUnset args

end LineShell.Builtin

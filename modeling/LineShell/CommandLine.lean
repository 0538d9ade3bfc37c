import LineShell.Interactive

/-!
The command line of the shell: the flags and operands that say what to run, the log file, and how
the shell ends.
-/
namespace LineShell.CommandLine

variable {σ : Type}

def usage : String :=
  "Usage:\n    simsh [options]\n    simsh [options] -c <command>\n    simsh [options] <file>\n" ++
  "    simsh (-h | --help)\n    simsh --version"

def helpText : String :=
  "simsh.\n\n" ++ usage ++ "\n\nOptions:\n" ++
  "    -h --help       Show this screen.\n" ++
  "    --version       Show version.\n" ++
  "    -c              If the -c option is present, then commands are read from the first " ++
  "non-option\n                        argument command_string.\n" ++
  "    --log=<path>    File to write log to, defaults to ~/.simsh_log\n"

def versionText : String := "simsh version 0.1.0\n"

def helpFlag : Usage.Flag := { short := some 'h', long := some "help" }

def versionFlag : Usage.Flag := { long := some "version" }

def commandFlag : Usage.Flag := { short := some 'c' }

def logFlag : Usage.Flag := { long := some "log", valued := true }

/-- What the shell is asked to do. -/
inductive Purpose where
  | help
  | version
  | command (line : String)
  | script (path : String)
  | interact
  /-- The flag for a command without the command, for which the shell has no answer. -/
  | commandMissing
  deriving DecidableEq, Repr

structure Request where
  purpose : Purpose
  logPath : Option String := none
  deriving DecidableEq, Repr

/-- Whether the flags and operands fit one of the lines of the usage section: no flag comes twice,
and there is at most one operand. -/
def fits (arguments : Usage.Arguments) : Bool :=
  [helpFlag, versionFlag, commandFlag, logFlag].all (arguments.count · ≤ 1) &&
    arguments.operands.length ≤ 1

def purposeOf (arguments : Usage.Arguments) : Purpose :=
  if arguments.has helpFlag then .help
  else if arguments.has versionFlag then .version
  else
    match arguments.has commandFlag, arguments.operands.head? with
    | true, some line => .command line
    | true, none => .commandMissing
    | false, some path => .script path
    | false, none => .interact

def Request.ofArgs (args : List String) : Except UsageError Request :=
  match Usage.read [helpFlag, versionFlag, commandFlag, logFlag] args with
  | .error problem => .error (.misuse problem usage)
  | .ok arguments =>
      if fits arguments then
        .ok { purpose := purposeOf arguments, logPath := arguments.value? logFlag }
      else .error (.misuse Usage.noPattern usage)

/-- How a run ended: with an exit code, with a fault, or not in the turns that it had. It is a fault
if a request has no answer, and if the shell cannot say what it has to. -/
inductive Ending where
  | code (code : Nat)
  | fault
  | unfinished
  deriving DecidableEq, Repr

/-- Terminals that cannot edit lines, for which the shell writes its prompt itself. -/
def plainTerminals : List String := ["dumb", "cons25", "emacs"]

def showsPrompt (env : Environment) : Bool :=
  (env.get? "TERM").any fun terminal => plainTerminals.contains (terminal.map Char.toLower)

def historyCapacity : Nat := 100

def logFileName : String := ".simsh_log"

/-- Goes on after something that has to be said. -/
def afterSaying (said : Except IoError Unit × σ) (goOn : σ → Ending × σ) : Ending × σ :=
  match said with
  | (.ok _, s) => goOn s
  | (.error _, s) => (.fault, s)

def tell (h : Host σ) (problem : ShellError) (s : σ) : Except IoError Unit × σ :=
  h.write Handle.errors (problem.report ++ "\n") s

/-- Opens the log. If there is none, the user is told, and this may fail. -/
def openLog (h : Host σ) (env : Environment) (path : Option String) (s : σ) :
    Except IoError Unit × σ :=
  match path <|> (h.homeDir env s).map (Path.join · logFileName) with
  | none => tell h (.note "unable to get home directory for the log file" none) s
  | some path =>
      match h.openOutput true path s with
      | (.ok log, s) => (.ok (), (h.write log "simsh started up\n" s).2)
      | (.error e, s) => tell h (.note ("failed to open log file `" ++ path ++ "'") (some e)) s

def leave (h : Host σ) (status : Option WaitStatus) (running : Running σ) : Ending × σ :=
  match (ShellM.quit h status : ShellM σ Unit).run running with
  | (.error (.exited code), running) => (.code code, running.host)
  | (_, running) => (.fault, running.host)

/-- Ends a shell after what it was asked to run. A failure that has left no status of its own is
still one. -/
def conclude (h : Host σ) : Except Halt Unit × Running σ → Ending × σ
  | (.ok _, running) => leave h none running
  | (.error (.exited code), running) => (.code code, running.host)
  | (.error .broken, running) => (.fault, running.host)
  | (.error (.failed e), running) =>
      match (report h e).run running with
      | (.ok _, running) =>
          leave h (if running.shell.lastStatus.isSuccess then some .failure else none) running
      | (.error _, running) => (.fault, running.host)

def converse (h : Host σ) (turns : Nat) (running : Running σ) : Ending × σ :=
  match interact h turns running with
  | (some (.exited code), running) => (.code code, running.host)
  | (some .inputEnded, running) => leave h none running
  | (some .broken, running) => (.fault, running.host)
  | (_, running) => (.unfinished, running.host)

/-- Starts a shell, which is shielded if it is interactive, and lets it act. -/
def withShell (h : Host σ) (mode : Mode) (env : Environment) (act : Running σ → Ending × σ)
    (s : σ) : Ending × σ :=
  let s := if mode.isInteractive then h.shield s else s
  match Shell.start h mode env s with
  | (.ok shell, s) => act { shell, host := s }
  | (.error e, s) => afterSaying (tell h e s) fun s => (.code 1, s)

def fulfil (h : Host σ) (turns : Nat) (env : Environment) (purpose : Purpose) (s : σ) :
    Ending × σ :=
  match purpose with
  | .help => (.code 0, (h.write Handle.output helpText s).2)
  | .version => afterSaying (h.write Handle.output versionText s) fun s => (.code 0, s)
  | .command line => withShell h .batch env (fun running => conclude h (execute h line running)) s
  | .script path =>
      withShell h .batch env (fun running => conclude h (executeFile h path running)) s
  | .interact =>
      withShell h (.interactive historyCapacity (showsPrompt env)) env (converse h turns) s
  | .commandMissing => (.fault, s)

/-- Runs the shell as a program. Who asks for help, or asks in vain, gets no log. -/
def run (h : Host σ) (turns : Nat) (args : List String) (env : Environment) (s : σ) :
    Ending × σ :=
  match Request.ofArgs args with
  | .error e => (.code 1, (h.write Handle.errors (e.message ++ "\n") s).2)
  | .ok request =>
      if request.purpose = .help then fulfil h turns env .help s
      else afterSaying (openLog h env request.logPath s) (fulfil h turns env request.purpose)

end LineShell.CommandLine

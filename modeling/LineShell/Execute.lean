import LineShell.Builtin.Run
import LineShell.Comment
import LineShell.Expansion.Tilde
import LineShell.Expansion.Variables
import LineShell.Text.Lines

/-!
Running lines. A line that is not empty leaves a status, whether it fails or not, and is followed
by a sweep over the jobs; the lines of a script are run one after another, whatever they do.
-/
namespace LineShell

variable {σ : Type}

/-- Runs a builtin, which writes to a file or to the shell's own output. It runs in the shell, so it
is waited for. -/
def runBuiltin (h : Host σ) (builtin : Builtin) (command : Command) : ShellM σ Unit := do
  match ← ShellM.attempt (openStreams h command) with
  | .error e => ShellM.fail e
  | .ok streams =>
      match streams.output with
      | some file => builtin.run h (h.write file) command.operands
      | none => ShellM.flushed h (builtin.run h (h.write Handle.output) command.operands)

def runExternal (h : Host σ) (command : Command) : ShellM σ Unit := do
  let running ← get
  let shell := running.shell
  let (result, jobs, host) := launch h shell.environment shell.mode.isInteractive
    (h.write Handle.output) command shell.jobs running.host
  set { running with shell := { shell with jobs }, host }
  match result with
  | .ok _ => ShellM.flush h
  | .error e => ShellM.fail e

def runLine (h : Host σ) (line : String) : ShellM σ Unit := do
  let env ← ShellM.environment
  match Command.parse (expandVariables env.get? line) with
  | .error e => ShellM.fail (.line e)
  | .ok command =>
      let command := command.expandTilde (← ShellM.homeDir h)
      match Builtin.ofName? command.program with
      | some builtin => runBuiltin h builtin command
      | none => runExternal h command

namespace Running

def remember (running : Running σ) (line : String) : Running σ :=
  { running with shell := { running.shell with history := running.shell.history.add line } }

def settle (running : Running σ) (status : WaitStatus) : Running σ :=
  { running with shell := { running.shell with lastStatus := status } }

/-- Sweeps the jobs; that an announcement may fail is not shown. -/
def reap (h : Host σ) (running : Running σ) : Running σ :=
  let (_, jobs, host) := running.shell.jobs.reap h.probe (h.write Handle.output) running.host
  { running with shell := { running.shell with jobs }, host }

end Running

def execute (h : Host σ) (text : String) (running : Running σ) :
    Except Halt Unit × Running σ :=
  let line := effective text
  if line = "" then (.ok (), running)
  else
    match (runLine h line).run (running.remember line) with
    | (.ok _, running) => (.ok (), (running.settle .success).reap h)
    | (.error (.failed e), running) => (.error (.failed e), (running.settle e.status).reap h)
    | (.error halt, running) => (.error halt, running)

/-- Tells the user about a failure. -/
def report (h : Host σ) (e : ShellError) : ShellM σ Unit :=
  ShellM.complain h e.report

/-- Runs lines in turn and reports each that fails; only the end of the shell stops them. -/
def executeAll (h : Host σ) : List String → Running σ → Except Halt Unit × Running σ
  | [], running => (.ok (), running)
  | line :: rest, running =>
      match execute h line running with
      | (.ok _, running) => executeAll h rest running
      | (.error (.failed e), running) =>
          match (report h e).run running with
          | (.ok _, running) => executeAll h rest running
          | (.error halt, running) => (.error halt, running)
      | (.error halt, running) => (.error halt, running)

def unreadable (path : String) (cause : IoError) : ShellError :=
  .note ("failed to read script `" ++ path ++ "'") (some cause)

def executeFile (h : Host σ) (path : String) (running : Running σ) :
    Except Halt Unit × Running σ :=
  let (content, host) := h.readFile path running.host
  let running := { running with host }
  match content with
  | .error e => (.error (.failed (unreadable path e)), running)
  | .ok bytes =>
      match bytes.text? with
      | none => (.error (.failed (unreadable path .notUtf8)), running)
      | some text => executeAll h (Text.lines text) running

end LineShell

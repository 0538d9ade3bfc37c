import LineShell.History
import LineShell.Launch

/-!
The shell's own state, and actions on it. An action runs on the shell and the system below it; it
may fail, and it may end the shell.
-/
namespace LineShell

/-- How a shell behaves towards its user. An interactive one keeps a history of so many lines, is
shielded against interrupts and says goodbye; it shows a prompt if the terminal does not. -/
inductive Mode where
  | batch
  | interactive (capacity : Nat) (promptShown : Bool)
  deriving DecidableEq, Repr

def Mode.isInteractive : Mode → Bool
  | .batch => false
  | .interactive .. => true

def Mode.promptShown : Mode → Bool
  | .batch => false
  | .interactive _ shown => shown

structure Shell where
  mode : Mode
  environment : Environment
  history : History
  historyPath : Option String := none
  jobs : JobTable := {}
  lastStatus : WaitStatus := .success
  deriving DecidableEq, Repr

/-- A shell and the system it runs on. -/
structure Running (σ : Type) where
  shell : Shell
  host : σ
  deriving Repr

/-- Why an action does not go on: it failed, it ended the shell with an exit code, or the shell
could not say what it has to say and broke off. -/
inductive Halt where
  | failed (error : ShellError)
  | exited (code : Nat)
  | broken
  deriving DecidableEq, Repr

abbrev ShellM (σ : Type) := ExceptT Halt (StateM (Running σ))

namespace ShellM

variable {σ α : Type}

def fail (error : ShellError) : ShellM σ α :=
  throw (.failed error)

def query (ask : σ → Except IoError α) : ShellM σ α := do
  match ask (← get).host with
  | .ok a => pure a
  | .error e => fail (.io e)

/-- An operation of the system, with its failure as a result. -/
def attempt (act : σ → α × σ) : ShellM σ α := do
  let running ← get
  let (result, host) := act running.host
  set { running with host }
  pure result

def emit (write : Writer σ) (text : String) : ShellM σ Unit := do
  match ← attempt (write text) with
  | .ok _ => pure ()
  | .error e => fail (.io e)

/-- Writes what the shell has to say. It breaks off if it cannot. -/
def insist (write : Writer σ) (text : String) : ShellM σ Unit := do
  match ← attempt (write text) with
  | .ok _ => pure ()
  | .error _ => throw .broken

def complain (h : Host σ) (text : String) : ShellM σ Unit :=
  insist (h.write Handle.errors) (text ++ "\n")

def flush (h : Host σ) : ShellM σ Unit := do
  match ← attempt h.flush with
  | .ok _ => pure ()
  | .error e => fail (.io e)

/-- A failure as a result; the end of a shell is none. -/
def caught : Except Halt α → Except Halt (Except ShellError α)
  | .ok a => .ok (.ok a)
  | .error (.failed e) => .ok (.error e)
  | .error halt => .error halt

/-- How an action went, if the shell is still there after it. -/
def result (act : ShellM σ α) : ShellM σ (Except ShellError α) :=
  ExceptT.mk (caught <$> act.run)

/-- Runs an action and flushes the output, however the action went. A flush that fails counts for
more than a failure of the action. -/
def flushed (h : Host σ) (act : ShellM σ α) : ShellM σ α := do
  let result ← result act
  flush h
  match result with
  | .ok a => pure a
  | .error e => fail e

def environment : ShellM σ Environment := do
  pure (← get).shell.environment

def homeDir (h : Host σ) : ShellM σ (Option String) := do
  let running ← get
  pure (h.homeDir running.shell.environment running.host)

def changeEnvironment (change : Environment → Environment) : ShellM σ Unit :=
  modify fun running =>
    { running with
      shell := { running.shell with environment := change running.shell.environment } }

/-- Ends the shell, with the last status unless another is given. A history that has grown is
saved; that this may fail is not shown. -/
def quit (h : Host σ) (status : Option WaitStatus) : ShellM σ α := do
  let shell := (← get).shell
  if shell.mode.isInteractive then insist (h.write Handle.output) "exit\n"
  if let (some path, some text) := (shell.historyPath, shell.history.saved?) then
    let _ ← attempt (h.replaceFile path (Bytes.ofString text))
  throw (.exited ((status.getD shell.lastStatus).shellCode % 256))

end ShellM

def historyFileName : String := ".simsh_history"

/-- A shell at its start. Its history is read from the file, which may be missing. -/
def Shell.start {σ : Type} (h : Host σ) (mode : Mode) (environment : Environment) (s : σ) :
    Except ShellError Shell × σ :=
  match mode with
  | .batch => (.ok { mode, environment, history := { capacity := 0 } }, s)
  | .interactive capacity _ =>
      let historyPath := (h.homeDir environment s).map (Path.join · historyFileName)
      let fresh : Shell := { mode, environment, history := { capacity }, historyPath }
      match historyPath.map (h.readFile · s) with
      | none => (.ok fresh, s)
      | some (content, s) =>
          let shell := match content with
            | .error (.os .noEntry) => .ok fresh
            | .error e => .error (.history e)
            | .ok bytes =>
                match bytes.text? with
                | none => .error (.history .notUtf8)
                | some text => .ok { fresh with history := fresh.history.load text }
          (shell, s)

def Shell.describe (shell : Shell) : String :=
  shell.jobs.describe ++ "\nhistory: " ++ toString shell.history.entries.length ++ " entries"

end LineShell

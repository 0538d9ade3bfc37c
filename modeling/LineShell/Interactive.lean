import LineShell.Execute
import LineShell.Text.Typed

/-!
The loop that reads lines until the input ends. A prompt names the last status and the working
directory; when this has no name the loop turns without reading.
-/
namespace LineShell

variable {σ : Type}

/-- What a turn of the loop came to. -/
inductive Turn where
  | again
  | inputEnded
  | exited (code : Nat)
  /-- The shell breaks off: it cannot say what it has to, or cannot make out the line typed. -/
  | broken
  deriving DecidableEq, Repr

def prompt (h : Host σ) (directory : String) (running : Running σ) : String :=
  let home := h.homeDir running.shell.environment running.host
  toString running.shell.lastStatus.shellCode ++ "|" ++ Path.display directory home ++ "\n$ "

/-- One turn: a line read after a prompt, and the line run. -/
def turn (h : Host σ) (running : Running σ) : Turn × Running σ :=
  match h.currentDir running.host with
  | .error _ => (.again, running)
  | .ok directory =>
      match h.readLine running.shell.mode.promptShown (prompt h directory running) running.host with
      | (.error _, host) => (.again, { running with host })
      | (.ok none, host) => (.inputEnded, { running with host })
      | (.ok (some typed), host) =>
          match Text.typedLine? typed with
          | none => (.broken, { running with host })
          | some line =>
              match execute h line { running with host } with
              | (.ok _, running) => (.again, running)
              | (.error (.failed e), running) =>
                  match (report h e).run running with
                  | (.ok _, running) => (.again, running)
                  | (.error _, running) => (.broken, running)
              | (.error (.exited code), running) => (.exited code, running)
              | (.error .broken, running) => (.broken, running)

/-- At most `turns` turns; the outcome is missing if they did not suffice. -/
def interact (h : Host σ) : (turns : Nat) → Running σ → Option Turn × Running σ
  | 0, running => (none, running)
  | turns + 1, running =>
      match turn h running with
      | (.again, running) => interact h turns running
      | (outcome, running) => (some outcome, running)

end LineShell

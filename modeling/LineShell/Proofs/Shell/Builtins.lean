import LineShell.Builtin.Run
import LineShell.Proofs.Shell.Action

/-!
The builtins leave the books alone: none of them starts, drops or asks about a job, and what they
fail with has the code one, unless it is about their usage.
-/
namespace LineShell
variable {σ τ : Type} {S : τ → τ → Prop}

namespace ShellM
variable {α : Type}

/-- The end of a shell that has said goodbye, if it does: a history that has grown is saved. -/
def lastly (h : Host σ) (shell : Shell) (code : Nat) : ShellM σ α :=
  if let (some path, some text) := (shell.historyPath, shell.history.saved?) then do
    let _ ← attempt (h.replaceFile path (Bytes.ofString text))
    throw (.exited code)
  else throw (.exited code)

theorem quit_eq (h : Host σ) (status : Option WaitStatus) :
    (quit h status : ShellM σ α) = get >>= fun running =>
      let code := (status.getD running.shell.lastStatus).shellCode % 256
      if running.shell.mode.isInteractive then do
        insist (h.write Handle.output) "exit\n"
        lastly h running.shell code
      else lastly h running.shell code := rfl

def goodbye (h : Host σ) (shell : Shell) (s : σ) : Except IoError Unit × σ :=
  if shell.mode.isInteractive then h.write Handle.output "exit\n" s else (.ok (), s)

def save (h : Host σ) (shell : Shell) (s : σ) : σ :=
  match shell.historyPath, shell.history.saved? with
  | some path, some text => (h.replaceFile path (Bytes.ofString text) s).2
  | _, _ => s

theorem run_lastly (h : Host σ) (shell : Shell) (code : Nat) (running : Running σ) :
    (lastly h shell code : ShellM σ α).run running =
      (.error (.exited code), { running with host := save h shell running.host }) := by
  unfold lastly save
  cases shell.historyPath <;> cases shell.history.saved? <;> rfl

theorem run_quit (h : Host σ) (status : Option WaitStatus) (running : Running σ) :
    (quit h status : ShellM σ α).run running =
      match goodbye h running.shell running.host with
      | (.ok _, s) =>
          (.error (.exited ((status.getD running.shell.lastStatus).shellCode % 256)),
            { running with host := save h running.shell s })
      | (.error _, s) => (.error .broken, { running with host := s }) := by
  rw [quit_eq, run_bind, run_get]
  dsimp only
  unfold goodbye
  split
  · rw [run_bind, run_insist]
    rcases h.write Handle.output "exit\n" running.host with ⟨_ | _, s⟩
    · rfl
    · exact run_lastly h _ _ _
  · exact run_lastly h _ _ _

end ShellM

namespace Builtin

theorem run_enter (h : Host σ) (directory : String) (running : Running σ) :
    (enter h directory).run running =
      match h.enterDir directory running.host with
      | .ok host => (.ok (), { running with host })
      | .error e =>
          (.error (.failed (.builtinFailed ("cd: " ++ directory ++ ": " ++ e.message) 1)),
            running) := by
  show ExceptT.run (match h.enterDir directory running.host with
    | .ok host => set { running with host }
    | .error e => ShellM.fail _) running = _
  cases h.enterDir directory running.host <;> rfl

section
variable [IsPreorder τ S] {h : Host σ} {h' : Host (σ × τ)} {write : Writer σ}
  {write' : Writer (σ × τ)}

theorem quiet_changeTarget [Inhabited τ] (shadows : h.Shadows S h') (alike : write.Shadows S write')
    (target : Option String) :
    Quiet S (changeTarget h write target) (changeTarget h' write' target) := by
  unfold changeTarget
  split
  case h_3 =>
    refine .bind .environment fun env => ?_
    cases env.get? "OLDPWD" with
    | none => exact .refuse _
    | some directory => exact .bind (.emit alike _) fun _ => .pure directory
  case h_4 => exact .pure _
  -- No directory at all and a tilde mean the same.
  all_goals
    refine .bind (.homeDir shadows) fun home => ?_
    cases home with
    | none => exact .refuse _
    | some home => exact .pure home

theorem quiet_enter (shadows : h.Shadows S h') (directory : String) :
    Quiet S (enter h directory) (enter h' directory) := by
  refine ⟨fun running t => ?_, fun running => ?_, fun running e failed => ?_⟩
  · obtain ⟨t', changed, answer⟩ := shadows.enterDir directory running.host t
    rw [run_enter, run_enter]
    simp only [Running.beside, answer]
    cases h.enterDir directory running.host with
    | ok host => exact ⟨t', changed, rfl⟩
    | error e => exact ⟨t, refl_of S t, rfl⟩
  · rw [run_enter]
    cases h.enterDir directory running.host <;> exact .refl running.shell
  · rw [run_enter] at failed
    cases entered : h.enterDir directory running.host with
    | ok host =>
        rw [entered] at failed
        contradiction
    | error cause =>
        rw [entered] at failed
        cases failed
        exact ⟨1, .builtinFailed _ (by decide) (by decide)⟩

theorem quiet_runChangeDir [Inhabited τ] (shadows : h.Shadows S h') (alike : write.Shadows S write')
    (args : List String) : Quiet S (runChangeDir h write args) (runChangeDir h' write' args) := by
  unfold runChangeDir
  refine .onlyIf (.refuse _) fun _ => ?_
  refine .bind (quiet_changeTarget shadows alike _) fun directory => ?_
  refine .bind (.query shadows.currentDir) fun before => ?_
  refine .bind (quiet_enter shadows _) fun _ => ?_
  refine .bind (.changeEnvironment _) fun _ => ?_
  exact .bind (.query shadows.currentDir) fun now => .changeEnvironment _

theorem quiet_runPrintDir (shadows : h.Shadows S h') (alike : write.Shadows S write') :
    Quiet S (runPrintDir h write) (runPrintDir h' write') :=
  .bind (.query shadows.currentDir) fun _ => .emit alike _

theorem quiet_writeJobs (alike : write.Shadows S write') (request : JobsRequest)
    (jobs : JobTable) : Quiet S (writeJobs write request jobs) (writeJobs write' request jobs) := by
  unfold writeJobs
  refine .ite ?_ (.forM fun id => ?_)
  · cases jobs.list with
    | empty => exact .ite (.emit alike _) (.pure ())
    | rows rows => exact .forM fun job => .emit alike _
  · cases found : jobs.get id with
    | ok job => exact .emit alike _
    | error e =>
        obtain rfl : e = .jobNotFound id := by
          unfold JobTable.get at found
          split at found
          · contradiction
          · exact (Except.error.inj found).symm
        exact .fail (.jobNotFound id)

theorem quiet_runJobs [Inhabited τ] (alike : write.Shadows S write') (args : List String) :
    Quiet S (runJobs write args) (runJobs write' args) := by
  unfold runJobs
  cases JobsRequest.ofArgs args with
  | error e => exact .fail (.usage e)
  | ok request => exact .read fun running _ => quiet_writeJobs alike request running.shell.jobs

theorem quiet_runExport [Inhabited τ] (alike : write.Shadows S write') (args : List String) :
    Quiet S (runExport write args) (runExport write' args) := by
  unfold runExport
  refine .ite (.bind .environment fun env => .forM fun entry => .emit alike _) ?_
  refine .bind (.changeEnvironment _) fun _ => ?_
  exact .ite (.refuse _) (.pure ())

theorem quiet_runUnset (args : List String) :
    Quiet (σ := σ) S (runUnset args) (runUnset args) := by
  refine .bind (.changeEnvironment _) fun _ => ?_
  exact .ite (.refuse _) (.pure ())

theorem quiet_runHelp (alike : write.Shadows S write') (topics : List String) :
    Quiet S (runHelp write topics) (runHelp write' topics) := by
  unfold runHelp
  refine .ite (.forM fun builtin => .emit alike _) ?_
  refine .bind (.forM fun builtin => .emit alike _) fun _ => ?_
  exact .ite (.refuse _) (.pure ())

theorem quiet_lastly {α : Type} (shadows : h.Shadows S h') (shell : Shell) (code : Nat) :
    Quiet (α := α) S (ShellM.lastly h shell code) (ShellM.lastly h' shell code) := by
  unfold ShellM.lastly
  split
  · exact .bind (.attempt (shadows.replaceFile _ _)) fun _ => .exit code
  · exact .exit code

theorem quiet_quit {α : Type} [Inhabited τ] (shadows : h.Shadows S h')
    (status : Option WaitStatus) :
    Quiet (α := α) S (ShellM.quit h status) (ShellM.quit h' status) := by
  rw [ShellM.quit_eq, ShellM.quit_eq]
  refine .read fun running _ => ?_
  exact .ite (.bind (.insist (shadows.write _) _) fun _ => quiet_lastly shadows _ _)
    (quiet_lastly shadows _ _)

theorem quiet_runExit [Inhabited τ] (shadows : h.Shadows S h') (args : List String) :
    Quiet S (runExit h args) (runExit h' args) := by
  unfold runExit
  refine .onlyIf (.refuse _) fun _ => ?_
  cases args.head? with
  | none => exact quiet_quit shadows none
  | some arg =>
      dsimp only
      cases exitStatus? arg with
      | some status => exact quiet_quit shadows _
      | none => exact .bind (.insist (shadows.write _) _) fun _ => quiet_quit shadows _

theorem quiet_run [Inhabited τ] (shadows : h.Shadows S h') (alike : write.Shadows S write')
    (args : List String) (builtin : Builtin) :
    Quiet S (run h write args builtin) (run h' write' args builtin) := by
  cases builtin with
  | changeDir => exact quiet_runChangeDir shadows alike args
  | clear | echo => exact .emit alike _
  | exit => exact quiet_runExit shadows args
  | exportVars => exact quiet_runExport alike args
  | help => exact quiet_runHelp alike args
  | jobs => exact quiet_runJobs alike args
  | printDir => exact quiet_runPrintDir shadows alike
  | unsetVars => exact quiet_runUnset args

end
end Builtin
end LineShell

import LineShell.Execute
import LineShell.Proofs.Job.Trace
import LineShell.Proofs.Shell.Builtins

/-!
The course of one line. Whatever it runs, it adds one job at most and asks about none; then it
leaves the code of how it went, and the sweep after it is the only one.
-/
namespace LineShell
variable {σ : Type}

section
variable (h : Host σ)

theorem openStreams_recorded (command : Command) (s : σ) (calls : List ProbeCall) :
    openStreams h.recorded command (s, calls) =
      ((openStreams h command s).1, (openStreams h command s).2, calls) :=
  openStreams_beside h h.recorded rfl rfl command s calls

theorem openTarget_failure {openFile : String → σ → Except IoError Handle × σ} {stream : Stream}
    {path : Option String} {s next : σ} {e : ShellError}
    (failed : openTarget openFile stream path s = (.error e, next)) : e.Leaves 1 := by
  unfold openTarget at failed
  split at failed
  · cases failed
  · split at failed
    · cases failed
    · cases failed
      exact .redirectFailed _ stream _

theorem openStreams_failure {command : Command} {s next : σ} {e : ShellError}
    (failed : openStreams h command s = (.error e, next)) : e.Leaves 1 := by
  unfold openStreams at failed
  split at failed
  · next first =>
      cases failed
      exact openTarget_failure first
  · split at failed
    · next second =>
        cases failed
        exact openTarget_failure second
    · split at failed
      · next third =>
          cases failed
          exact openTarget_failure third
      · cases failed

variable (env : Environment) (shielded : Bool) (write : Writer σ) (command : Command)
  (jobs : JobTable) (s : σ)

theorem launch_recorded (calls : List ProbeCall) :
    launch h.recorded env shielded (Writer.recorded write) command jobs (s, calls) =
      ((launch h env shielded write command jobs s).1,
        (launch h env shielded write command jobs s).2.1,
        (launch h env shielded write command jobs s).2.2, calls) := by
  have found : resolve h.recorded env command.program (s, calls) =
      resolve h env command.program s := rfl
  unfold launch
  rw [found]
  cases resolve h env command.program s with
  | none => rfl
  | some path =>
      simp only [openStreams_recorded]
      rcases openStreams h command s with ⟨_ | streams, s⟩
      · rfl
      dsimp only
      generalize Program.mk path command.program _ env streams _ = program
      have start : h.recorded.start program (s, calls) =
          ((h.start program s).1, (h.start program s).2, calls) := rfl
      have run : h.recorded.run program (s, calls) =
          ((h.run program s).1, (h.run program s).2, calls) := rfl
      cases command.background with
      | true =>
          simp only [start, if_true]
          rcases h.start program s with ⟨_ | pid, s⟩
          · rfl
          simp only [Writer.recorded]
          rcases write _ s with ⟨_ | _, s⟩ <;> rfl
      | false =>
          simp only [run, Bool.false_eq_true, if_false]
          rcases h.run program s with ⟨_ | status, s⟩
          · rfl
          dsimp only
          cases status.isSuccess <;> rfl

/-- A launch adds one job or none, and fails with a code. -/
theorem launch_outcome (ends : h.AwaitsEnds) :
    (∃ started : List Job, started.length ≤ 1 ∧
      (launch h env shielded write command jobs s).2.1.jobs = jobs.jobs ++ started) ∧
    ∀ e, (launch h env shielded write command jobs s).1 = .error e → ∃ code, e.Leaves code := by
  have unchanged : ∃ started : List Job, started.length ≤ 1 ∧ jobs.jobs = jobs.jobs ++ started :=
    ⟨[], Nat.zero_le 1, (List.append_nil _).symm⟩
  unfold launch
  split
  · refine ⟨unchanged, fun e failed => ?_⟩
    cases failed
    exact ⟨127, .commandNotFound _⟩
  split
  · next refused =>
      refine ⟨unchanged, fun e failed => ?_⟩
      cases failed
      exact ⟨1, openStreams_failure h refused⟩
  dsimp only
  split
  · split
    · refine ⟨unchanged, fun e failed => ?_⟩
      cases failed
      exact ⟨1, .notStarted _ _⟩
    · next pid _ _ =>
        have added : ∃ started : List Job, started.length ≤ 1 ∧
            (jobs.register pid command.argv).2.jobs = jobs.jobs ++ started :=
          ⟨[(jobs.register pid command.argv).1], Nat.le_refl 1, rfl⟩
        split
        · refine ⟨added, fun e failed => ?_⟩
          cases failed
          exact ⟨1, .io _⟩
        · exact ⟨added, nofun⟩
  · split
    · refine ⟨unchanged, fun e failed => ?_⟩
      cases failed
      exact ⟨1, .notStarted _ _⟩
    · next status next ran =>
        split
        · exact ⟨unchanged, nofun⟩
        · next unsuccessful =>
            refine ⟨unchanged, fun e failed => ?_⟩
            cases failed
            obtain ⟨code, ended⟩ := ends _ _ status next ran
            exact ⟨code, .programFailed _ ended (by simpa using unsuccessful)⟩

end

structure Shell.Grown (before after : Shell) : Prop where
  mode : after.mode = before.mode
  jobs : ∃ started : List Job, started.length ≤ 1 ∧ after.jobs.jobs = before.jobs.jobs ++ started
  history : after.history = before.history
  lastStatus : after.lastStatus = before.lastStatus

theorem Shell.SameBooks.grown {before after : Shell} (h : before.SameBooks after) :
    before.Grown after :=
  ⟨h.mode, ⟨[], Nat.zero_le 1, by rw [h.jobs, List.append_nil]⟩, h.history, h.lastStatus⟩

theorem Shell.Grown.after {a b c : Shell} (hab : a.SameBooks b) (hbc : b.Grown c) : a.Grown c :=
  ⟨hbc.mode.trans hab.mode, hab.jobs ▸ hbc.jobs, hbc.history.trans hab.history,
    hbc.lastStatus.trans hab.lastStatus⟩

theorem Shell.Grown.before {a b c : Shell} (hab : a.Grown b) (hbc : b.SameBooks c) : a.Grown c :=
  ⟨hbc.mode.trans hab.mode, hbc.jobs ▸ hab.jobs, hbc.history.trans hab.history,
    hbc.lastStatus.trans hab.lastStatus⟩

theorem quiet_runBuiltin (h : Host σ) (builtin : Builtin) (command : Command) :
    Quiet Eq (runBuiltin h builtin command) (runBuiltin h.recorded builtin command) := by
  refine Acts.bind (P := Shell.SameBooks) (Q := Shell.SameBooks)
    (fun _ _ _ hab hbc => hab.trans hbc) (fun _ _ hab => hab)
    (Quiet.attempt fun s calls => ⟨calls, rfl, openStreams_recorded h command s calls⟩)
    fun result opened => ?_
  cases result with
  | error e =>
      obtain ⟨running, refused⟩ := opened
      rw [ShellM.run_attempt] at refused
      exact Quiet.fail (openStreams_failure h (Prod.ext (Except.ok.inj refused) rfl))
  | ok streams =>
      have runs handle := Builtin.quiet_run h.shadows_recorded (h.shadows_recorded.write handle)
        command.operands builtin
      dsimp only
      cases streams.output with
      | some file => exact runs file
      | none => exact (runs Handle.output).flushed h.shadows_recorded

def Running.launch (h : Host σ) (command : Command) (running : Running σ) :
    Except ShellError (Option JobId) × JobTable × σ :=
  LineShell.launch h running.shell.environment running.shell.mode.isInteractive
    (h.write Handle.output) command running.shell.jobs running.host

def Running.launched (h : Host σ) (command : Command) (running : Running σ) : Running σ where
  shell := { running.shell with jobs := (running.launch h command).2.1 }
  host := (running.launch h command).2.2

/-- A launch that succeeds is followed by a flush of the output. -/
theorem run_runExternal (h : Host σ) (command : Command) (running : Running σ) :
    (runExternal h command).run running =
      match (running.launch h command).1 with
      | .ok _ => (ShellM.flush h).run (running.launched h command)
      | .error e => (.error (.failed e), running.launched h command) := by
  rw [runExternal, ShellM.run_bind, ShellM.run_get]
  unfold Running.launched Running.launch
  dsimp only
  generalize launch h _ _ _ command _ running.host = out
  obtain ⟨_ | _, jobs, host⟩ := out <;> rfl

theorem acts_runExternal {h : Host σ} (ends : h.AwaitsEnds) (command : Command) :
    Acts Shell.Grown Eq (runExternal h command) (runExternal h.recorded command) := by
  have flush := Quiet.flush h.shadows_recorded
  refine ⟨fun running calls => ?_, fun running => ?_, fun running e => ?_⟩
  · have launch : (running.beside calls).launch h.recorded command =
        ((running.launch h command).1, (running.launch h command).2.1,
          (running.launch h command).2.2, calls) :=
      launch_recorded h _ _ (h.write Handle.output) command _ _ calls
    have launched : (running.beside calls).launched h.recorded command =
        (running.launched h command).beside calls := by
      unfold Running.launched
      rw [launch]
      rfl
    rw [run_runExternal, run_runExternal, launch, launched]
    cases (running.launch h command).1 with
    | error e => exact ⟨calls, rfl, rfl⟩
    | ok id => exact flush.same _ calls
  · have grown : running.shell.Grown (running.launched h command).shell :=
      ⟨rfl, (launch_outcome h _ _ _ command _ _ ends).1, rfl, rfl⟩
    rw [run_runExternal]
    cases (running.launch h command).1 with
    | error e => exact grown
    | ok id => exact grown.before (flush.shell _)
  · have outcome := (launch_outcome h running.shell.environment running.shell.mode.isInteractive
      (h.write Handle.output) command running.shell.jobs running.host ends).2
    rw [run_runExternal]
    cases launched : (running.launch h command).1 with
    | error cause =>
        intro failed
        cases failed
        exact outcome e launched
    | ok id => exact flush.failure _ e

theorem acts_runLine {h : Host σ} (ends : h.AwaitsEnds) (line : String) :
    Acts Shell.Grown Eq (runLine h line) (runLine h.recorded line) := by
  refine Acts.bind (P := Shell.SameBooks) (fun _ _ _ => .after) (fun _ _ kept => kept.grown)
    Quiet.environment fun env _ => ?_
  cases Command.parse (expandVariables env.get? line) with
  | error e => exact (Quiet.fail (.line e)).mono fun _ _ kept => kept.grown
  | ok parsed =>
      refine Acts.bind (P := Shell.SameBooks) (fun _ _ _ => .after) (fun _ _ kept => kept.grown)
        (Quiet.homeDir h.shadows_recorded) fun home _ => ?_
      dsimp only
      cases Builtin.ofName? (parsed.expandTilde home).program with
      | none => exact acts_runExternal ends _
      | some builtin => exact (quiet_runBuiltin h builtin _).mono fun _ _ kept => kept.grown

def Running.parse (h : Host σ) (line : String) (running : Running σ) : Except LineError Command :=
  (Command.parse (expandVariables running.shell.environment.get? line)).map
    (·.expandTilde (h.homeDir running.shell.environment running.host))

theorem run_runLine (h : Host σ) (line : String) (running : Running σ) :
    (runLine h line).run running =
      match running.parse h line with
      | .error e => (.error (.failed (.line e)), running)
      | .ok command =>
          match Builtin.ofName? command.program with
          | some builtin => (runBuiltin h builtin command).run running
          | none => (runExternal h command).run running := by
  rw [runLine, ShellM.run_bind, ShellM.run_environment, Running.parse]
  dsimp only
  cases Command.parse (expandVariables running.shell.environment.get? line) with
  | error e => rfl
  | ok parsed =>
      dsimp only [Except.map]
      rw [ShellM.run_bind, ShellM.run_homeDir]
      dsimp only
      generalize parsed.expandTilde _ = command
      cases Builtin.ofName? command.program <;> rfl

def RunsExit (h : Host σ) (line : String) (running : Running σ) : Prop :=
  ∃ command, running.parse h line = .ok command ∧
    Builtin.ofName? command.program = some .exit

theorem runsExit_remember {h : Host σ} {line text : String} {running : Running σ} :
    RunsExit h line (running.remember text) ↔ RunsExit h line running := Iff.rfl

theorem execute_blank (h : Host σ) {text : String} (blank : effective text = "")
    (running : Running σ) : execute h text running = (.ok (), running) := by
  rw [execute, if_pos blank]

theorem execute_nonblank (h : Host σ) {text : String} (nonblank : effective text ≠ "")
    (running : Running σ) :
    execute h text running =
      match (runLine h (effective text)).run (running.remember (effective text)) with
      | (.ok _, next) => (.ok (), (next.settle .success).reap h)
      | (.error (.failed e), next) => (.error (.failed e), (next.settle e.status).reap h)
      | (.error halt, next) => (.error halt, next) := by
  rw [execute]
  exact if_neg nonblank

inductive Stays {α : Type} : Except Halt α → Prop
  | ok (a : α) : Stays (.ok a)
  | failed (e : ShellError) : Stays (.error (.failed e))

/-- How a line goes, and the code that says so. -/
inductive Outcome : Except Halt Unit → Nat → Prop
  | ok : Outcome (.ok ()) 0
  | failed {e : ShellError} {code : Nat} : e.Leaves code → Outcome (.error (.failed e)) code

theorem Outcome.ok_iff {result : Except Halt Unit} {code : Nat} (h : Outcome result code) :
    result = .ok () ↔ code = 0 := by
  cases h with
  | ok => simp
  | failed leaves => simp [leaves.pos.ne']

/-- A line that does not end the shell is settled with the code of its outcome and followed by a
sweep. -/
theorem execute_cases {h : Host σ} (ends : h.AwaitsEnds) {text : String}
    (nonblank : effective text ≠ "") (running : Running σ) :
    (¬Stays (execute h text running).1 ∧
      (running.remember (effective text)).shell.Grown (execute h text running).2.shell) ∨
    ∃ (next : Running σ) (status : WaitStatus),
      (running.remember (effective text)).shell.Grown next.shell ∧ status.Faithful ∧
      Outcome (execute h text running).1 status.shellCode ∧
      (execute h text running).2 = (next.settle status).reap h ∧
      ∀ calls, execute h.recorded text (running.beside calls) =
        ((execute h text running).1, ((next.beside calls).settle status).reap h.recorded) := by
  have acts := acts_runLine ends (effective text)
  have shell := acts.shell (running.remember (effective text))
  have failure := acts.failure (running.remember (effective text))
  have same := acts.same_beside (running.remember (effective text))
  have recorded calls := execute_nonblank h.recorded nonblank (running.beside calls)
  have remembered (calls : List ProbeCall) : (running.beside calls).remember (effective text) =
      (running.remember (effective text)).beside calls := rfl
  -- Up to the sweep both systems take the same course, so one case analysis does for both.
  simp only [remembered, same] at recorded
  rw [execute_nonblank h nonblank]
  generalize (runLine h (effective text)).run (running.remember (effective text)) = out
    at shell failure recorded
  obtain ⟨(e | code | _) | _, next⟩ := out
  · obtain ⟨code, leaves⟩ := failure e rfl
    obtain ⟨same, faithful, -⟩ := leaves.status
    exact .inr ⟨next, e.status, shell, faithful, same ▸ .failed leaves, rfl, recorded⟩
  · exact .inl ⟨nofun, shell⟩
  · exact .inl ⟨nofun, shell⟩
  · exact .inr ⟨next, .success, shell, WaitStatus.faithful_success, .ok, rfl, recorded⟩

end LineShell

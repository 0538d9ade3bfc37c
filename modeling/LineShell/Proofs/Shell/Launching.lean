import LineShell.Proofs.Job.Announcing
import LineShell.Proofs.Shell.Line

/-!
The steps of running a command. A system writes down all that it is asked to do, with its answers.
What is written down when a command is run shows in which order its steps come, that none comes
after one that fails, and that each process started in the background has its job.
-/
namespace LineShell
variable {σ α : Type}

inductive Opening where
  | reading (path : String)
  | writing (append : Bool) (path : String)

def Opening.path : Opening → String
  | .reading path | .writing _ path => path

inductive Step where
  | opened (file : Opening) (answer : Except IoError Handle)
  | started (program : Program) (answer : Except IoError ProcessId)
  | ran (program : Program) (answer : Except IoError WaitStatus)
  | wrote (text : String) (answer : Except IoError Unit)
  | flushed (answer : Except IoError Unit)
  | other

def Step.noted (step : α → Step) (log : List Step) (out : α × σ) : α × (σ × List Step) :=
  (out.1, out.2, log ++ [step out.1])

def Writer.noting (write : Writer σ) : Writer (σ × List Step) := fun text s =>
  Step.noted (.wrote text) s.2 (write text s.1)

/-- A system with all its steps beside it, the latest at the end. -/
def Host.noting (h : Host σ) : Host (σ × List Step) :=
  { h.beside (List Step) with
    enterDir := fun path s => (h.enterDir path s.1).map (·, s.2 ++ [.other])
    readFile := fun path s => Step.noted (fun _ => .other) s.2 (h.readFile path s.1)
    replaceFile := fun path bytes s =>
      Step.noted (fun _ => .other) s.2 (h.replaceFile path bytes s.1)
    openInput := fun path s => Step.noted (.opened (.reading path)) s.2 (h.openInput path s.1)
    openOutput := fun append path s =>
      Step.noted (.opened (.writing append path)) s.2 (h.openOutput append path s.1)
    write := fun handle => (h.write handle).noting
    flush := fun s => Step.noted .flushed s.2 (h.flush s.1)
    readLine := fun shown prompt s =>
      Step.noted (fun _ => .other) s.2 (h.readLine shown prompt s.1)
    start := fun program s => Step.noted (.started program) s.2 (h.start program s.1)
    run := fun program s => Step.noted (.ran program) s.2 (h.run program s.1)
    probe := fun pid s => Step.noted (fun _ => .other) s.2 (h.probe pid s.1)
    shield := fun s => (h.shield s.1, s.2 ++ [.other]) }

theorem noting_start (h : Host σ) (program : Program) (s : σ) (log : List Step) :
    h.noting.start program (s, log) = Step.noted (.started program) log (h.start program s) := rfl

theorem noting_run (h : Host σ) (program : Program) (s : σ) (log : List Step) :
    h.noting.run program (s, log) = Step.noted (.ran program) log (h.run program s) := rfl

theorem noting_write (write : Writer σ) (text : String) (s : σ) (log : List Step) :
    write.noting text (s, log) = Step.noted (.wrote text) log (write text s) := rfl

def Command.targets (command : Command) : List (Stream × Opening) :=
  (command.inputFile.map fun path => (.input, .reading path)).toList ++
    ((command.outputFile.map fun path => (.output, .writing command.append path)).toList ++
      (command.errorFile.map fun path => (.error, .writing false path)).toList)

def Streams.connect (streams : Streams) (stream : Stream) (handle : Handle) : Streams :=
  match stream with
  | .input => { streams with input := some handle }
  | .output => { streams with output := some handle }
  | .error => { streams with errors := some handle }

inductive Opens : List (Stream × Opening) → List Step → Except ShellError Streams → Prop
  | none : Opens [] [] (.ok {})
  | refused (stream : Stream) (file : Opening) (later : List (Stream × Opening)) (e : IoError) :
      Opens ((stream, file) :: later) [.opened file (.error e)]
        (.error (.redirectFailed file.path stream (some e)))
  | opened (stream : Stream) (file : Opening) (handle : Handle) {later : List (Stream × Opening)}
      {steps : List Step} {result : Except ShellError Streams} : Opens later steps result →
      Opens ((stream, file) :: later) (.opened file (.ok handle) :: steps)
        (result.map (·.connect stream handle))

inductive Runs (command : Command) (program : Program) (jobs : JobTable) :
    List Step → Except ShellError (Option JobId) → JobTable → Prop
  | unstarted (e : IoError) : command.background = true →
      Runs command program jobs [.started program (.error e)]
        (.error (.notStarted command.program (some e))) jobs
  | untold (pid : ProcessId) (e : IoError) : command.background = true →
      Runs command program jobs [.started program (.ok pid),
          .wrote (Announcement.started (jobs.issued + 1) pid).line (.error e)]
        (.error (.io e)) (jobs.register pid command.argv).2
  | told (pid : ProcessId) : command.background = true →
      Runs command program jobs [.started program (.ok pid),
          .wrote (Announcement.started (jobs.issued + 1) pid).line (.ok ())]
        (.ok (some (jobs.issued + 1))) (jobs.register pid command.argv).2
  | unrun (e : IoError) : command.background = false →
      Runs command program jobs [.ran program (.error e)]
        (.error (.notStarted command.program (some e))) jobs
  | failed (status : WaitStatus) : command.background = false → status.isSuccess = false →
      Runs command program jobs [.ran program (.ok status)]
        (.error (.programFailed command.program status)) jobs
  | succeeded (status : WaitStatus) : command.background = false → status.isSuccess = true →
      Runs command program jobs [.ran program (.ok status)] (.ok none) jobs

def Command.toProgram (command : Command) (path : String) (env : Environment) (shielded : Bool)
    (streams : Streams) : Program :=
  { path, name := command.program, args := command.operands, environment := env, streams,
    shielded := shielded && command.background }

/-- The course of a launch, given the file that is found for the program. -/
inductive Course (command : Command) (env : Environment) (shielded : Bool) (jobs : JobTable) :
    Option String → List Step → Except ShellError (Option JobId) → JobTable → Prop
  | notFound : Course command env shielded jobs none []
      (.error (.commandNotFound command.program)) jobs
  | refused (path : String) {steps : List Step} {e : ShellError} :
      Opens command.targets steps (.error e) →
      Course command env shielded jobs (some path) steps (.error e) jobs
  | reached (path : String) {opening steps : List Step} {streams : Streams}
      {result : Except ShellError (Option JobId)} {table : JobTable} :
      Opens command.targets opening (.ok streams) →
      Runs command (command.toProgram path env shielded streams) jobs steps result table →
      Course command env shielded jobs (some path) (opening ++ steps) result table

section
variable (h : Host σ)

theorem openTarget_noting (openFile : String → σ → Except IoError Handle × σ)
    (openFile' : String → σ × List Step → Except IoError Handle × (σ × List Step))
    (file : String → Opening) (path_file : ∀ path, (file path).path = path)
    (alike : ∀ path s log,
      openFile' path (s, log) = Step.noted (.opened (file path)) log (openFile path s))
    (stream : Stream) (path : Option String) (s : σ) (log : List Step) :
    let target := (path.map fun path => (stream, file path)).toList
    ∃ steps, openTarget openFile' stream path (s, log) =
        ((openTarget openFile stream path s).1, (openTarget openFile stream path s).2,
          log ++ steps) ∧
      match (openTarget openFile stream path s).1 with
      | .ok handle => ∀ {later more result}, Opens later more result →
          Opens (target ++ later) (steps ++ more)
            (result.map fun streams => handle.elim streams (streams.connect stream))
      | .error e => ∀ later, Opens (target ++ later) steps (.error e) := by
  cases path with
  | none =>
      refine ⟨[], by simp [openTarget], fun {later more result} rest => ?_⟩
      cases result <;> exact rest
  | some path =>
      simp only [openTarget, alike, Step.noted]
      rcases openFile path s with ⟨e | handle, next⟩
      · refine ⟨[.opened (file path) (.error e)], rfl, fun later => ?_⟩
        have refused := Opens.refused stream (file path) later e
        rwa [path_file] at refused
      · exact ⟨[.opened (file path) (.ok handle)], rfl, fun rest => .opened stream _ handle rest⟩

theorem openStreams_noting (command : Command) (s : σ) (log : List Step) :
    ∃ steps, openStreams h.noting command (s, log) =
        ((openStreams h command s).1, (openStreams h command s).2, log ++ steps) ∧
      Opens command.targets steps (openStreams h command s).1 := by
  have input := openTarget_noting h.openInput h.noting.openInput .reading (fun _ => rfl)
    (fun _ _ _ => rfl)
  have output append := openTarget_noting (h.openOutput append) (h.noting.openOutput append)
    (.writing append) (fun _ => rfl) (fun _ _ _ => rfl)
  unfold openStreams
  obtain ⟨first, same, opens⟩ := input .input command.inputFile s log
  rw [same]
  generalize openTarget h.openInput .input command.inputFile s = out at opens ⊢
  obtain ⟨e | input, s₁⟩ := out
  · exact ⟨first, rfl, opens _⟩
  dsimp only at opens ⊢
  obtain ⟨second, same, opens'⟩ :=
    output command.append .output command.outputFile s₁ (log ++ first)
  rw [same]
  generalize openTarget (h.openOutput command.append) .output command.outputFile s₁ = out
    at opens' ⊢
  obtain ⟨e | written, s₂⟩ := out
  · exact ⟨first ++ second, by rw [List.append_assoc], opens (opens' _)⟩
  dsimp only at opens' ⊢
  obtain ⟨third, same, opens''⟩ :=
    output false .error command.errorFile s₂ (log ++ first ++ second)
  rw [same]
  generalize openTarget (h.openOutput false) .error command.errorFile s₂ = out at opens'' ⊢
  obtain ⟨e | errors, s₃⟩ := out
  · have all := opens (opens' (opens'' []))
    rw [List.append_nil] at all
    exact ⟨first ++ (second ++ third), by simp only [List.append_assoc], all⟩
  · have all := opens (opens' (opens'' .none))
    simp only [List.append_nil] at all
    refine ⟨first ++ (second ++ third), by simp only [List.append_assoc], ?_⟩
    cases input <;> cases written <;> cases errors <;> exact all

variable (env : Environment) (shielded : Bool) (write : Writer σ) (command : Command)
  (jobs : JobTable) (s : σ)

theorem launch_noting :
    ∃ steps, launch h.noting env shielded write.noting command jobs (s, []) =
        ((launch h env shielded write command jobs s).1,
          (launch h env shielded write command jobs s).2.1,
          (launch h env shielded write command jobs s).2.2, steps) ∧
      Course command env shielded jobs (resolve h env command.program s) steps
        (launch h env shielded write command jobs s).1
        (launch h env shielded write command jobs s).2.1 := by
  have found : resolve h.noting env command.program (s, []) =
      resolve h env command.program s := rfl
  unfold launch
  rw [found]
  cases resolve h env command.program s with
  | none => exact ⟨[], rfl, .notFound⟩
  | some path =>
      obtain ⟨opening, same, opens⟩ := openStreams_noting h command s []
      dsimp only
      rw [same, List.nil_append]
      generalize openStreams h command s = out at opens ⊢
      obtain ⟨e | streams, s₁⟩ := out
      · exact ⟨opening, rfl, .refused path opens⟩
      dsimp only
      have reached {steps result table} (runs : Runs command
          (command.toProgram path env shielded streams) jobs steps result table) :
          Course command env shielded jobs (some path) (opening ++ steps) result table :=
        .reached path opens runs
      unfold Command.toProgram at reached
      generalize Program.mk path command.program _ env streams _ = program at reached ⊢
      cases behind : command.background with
      | true =>
          simp only [if_true, noting_start, Step.noted]
          generalize h.start program s₁ = out
          obtain ⟨e | pid, s₂⟩ := out
          · exact ⟨_, rfl, reached (.unstarted e behind)⟩
          simp only [noting_write, Step.noted]
          generalize write ((jobs.register pid command.argv).1.announcement ++ "\n") s₂ = out
          obtain ⟨e | _, s₃⟩ := out
          · exact ⟨_, by rw [List.append_assoc]; rfl, reached (.untold pid e behind)⟩
          · exact ⟨_, by rw [List.append_assoc]; rfl, reached (.told pid behind)⟩
      | false =>
          simp only [Bool.false_eq_true, if_false, noting_run, Step.noted]
          generalize h.run program s₁ = out
          obtain ⟨e | status, s₂⟩ := out
          · exact ⟨_, rfl, reached (.unrun e behind)⟩
          dsimp only
          cases went : status.isSuccess with
          | true => exact ⟨_, rfl, reached (.succeeded status behind went)⟩
          | false => exact ⟨_, rfl, reached (.failed status behind went)⟩

end

theorem Opens.ne_nil {targets : List (Stream × Opening)} {steps : List Step} {e : ShellError}
    (h : Opens targets steps (.error e)) : steps ≠ [] := by
  rintro rfl
  nomatch h

def Step.child? : Step → Option ProcessId
  | .started _ (.ok pid) => some pid
  | _ => none

/-- The table after the steps of a command: there is one job more if one process was started, which
is done for a command in the background only, and else all is as it was. -/
def Tracked (command : Command) (jobs : JobTable) (steps : List Step) (table : JobTable) : Prop :=
  (∃ pid, steps.filterMap Step.child? = [pid] ∧ command.background = true ∧
    let job : Job := { id := jobs.issued + 1, pid, command := " ".intercalate command.args }
    table = { jobs := jobs.jobs ++ [job], issued := jobs.issued + 1 }) ∨
  steps.filterMap Step.child? = [] ∧ table = jobs

section
variable {command : Command} {program : Program} {env : Environment} {shielded : Bool}
  {jobs table : JobTable} {steps : List Step} {result : Except ShellError (Option JobId)}

theorem Opens.childless {targets : List (Stream × Opening)} {opened : Except ShellError Streams}
    (h : Opens targets steps opened) : steps.filterMap Step.child? = [] := by
  induction h with
  | none | refused => rfl
  | opened stream file handle _ ih => exact ih

theorem Runs.tracked (h : Runs command program jobs steps result table) :
    Tracked command jobs steps table := by
  cases h with
  | untold pid e behind => exact .inl ⟨pid, rfl, behind, rfl⟩
  | told pid behind => exact .inl ⟨pid, rfl, behind, rfl⟩
  | unstarted | unrun | failed | succeeded => exact .inr ⟨rfl, rfl⟩

theorem Tracked.after {opening : List Step} (h : Tracked command jobs steps table)
    (childless : opening.filterMap Step.child? = []) :
    Tracked command jobs (opening ++ steps) table := by
  rwa [Tracked, List.filterMap_append, childless]

theorem Tracked.before {later : List Step} (h : Tracked command jobs steps table)
    (childless : later.filterMap Step.child? = []) :
    Tracked command jobs (steps ++ later) table := by
  rwa [Tracked, List.filterMap_append, childless, List.append_nil]

theorem Course.tracked {file : Option String}
    (h : Course command env shielded jobs file steps result table) :
    Tracked command jobs steps table := by
  cases h with
  | notFound => exact .inr ⟨rfl, rfl⟩
  | refused path opens => exact .inr ⟨opens.childless, rfl⟩
  | reached path opens runs => exact runs.tracked.after opens.childless

end

/-- Steps that neither open a file nor have to do with a program. -/
def Step.Plain : Step → Prop
  | .wrote .. | .flushed _ | .other => True
  | _ => False

theorem Step.Plain.childless {steps : List Step} (plain : ∀ step ∈ steps, step.Plain) :
    steps.filterMap Step.child? = [] := by
  rw [List.filterMap_eq_nil_iff]
  intro step mem
  cases step with
  | started => exact (plain _ mem).elim
  | _ => rfl

def Furthers (log log' : List Step) : Prop :=
  ∃ more, log' = log ++ more ∧ ∀ step ∈ more, step.Plain

theorem Furthers.step (step : Step) (log : List Step) (plain : step.Plain) :
    Furthers log (log ++ [step]) :=
  ⟨[step], rfl, by simpa using plain⟩

instance : IsPreorder (List Step) Furthers where
  refl log := ⟨[], (List.append_nil log).symm, List.forall_mem_nil _⟩
  trans log _ _ first second := by
    obtain ⟨more, rfl, plain⟩ := first
    obtain ⟨more', rfl, plain'⟩ := second
    refine ⟨more ++ more', by rw [List.append_assoc], fun step mem => ?_⟩
    exact (List.mem_append.mp mem).elim (plain step) (plain' step)

theorem Alongside.noted (step : α → Step) (plain : ∀ answer, (step answer).Plain) (log : List Step)
    (out : α × σ) : Alongside Furthers log out (Step.noted step log out) :=
  ⟨_, .step (step out.1) log (plain out.1), rfl⟩

theorem shadows_noting (h : Host σ) : h.Shadows Furthers h.noting where
  homeDir _ _ _ := rfl
  currentDir _ _ := rfl
  enterDir _ _ log := ⟨log ++ [.other], .step .other log trivial, rfl⟩
  replaceFile _ _ _ log := .noted (fun _ => .other) (fun _ => trivial) log _
  write _ text _ log := .noted (.wrote text) (fun _ => trivial) log _
  flush _ log := .noted .flushed (fun _ => trivial) log _

def afterFlush (h : Host σ) (out : Except Halt Unit × Running σ) :
    Except Halt Unit × Running σ :=
  (((h.flush out.2.host).1.mapError fun e => .failed (.io e)).bind fun _ => out.1,
    { out.2 with host := (h.flush out.2.host).2 })

theorem afterFlush_noting (h : Host σ) (result : Except Halt Unit) (running : Running σ)
    (log : List Step) :
    afterFlush h.noting (result, running.beside log) =
      ((afterFlush h (result, running)).1,
        (afterFlush h (result, running)).2.beside (log ++ [.flushed (h.flush running.host).1])) :=
  rfl

theorem run_flush_eq (h : Host σ) (running : Running σ) :
    (ShellM.flush h).run running = afterFlush h (.ok (), running) := by
  rw [ShellM.run_flush, afterFlush]
  cases (h.flush running.host).1 <;> rfl

theorem run_flushed_departed (h : Host σ) {act : ShellM σ Unit} {running : Running σ}
    (departs : ¬Stays (act.run running).1) :
    (ShellM.flushed h act).run running = act.run running := by
  rw [ShellM.flushed, ShellM.run_bind, ShellM.run_result]
  generalize act.run running = out at departs ⊢
  obtain ⟨(e | code | _) | _, next⟩ := out
  · exact absurd (.failed e) departs
  · rfl
  · rfl
  · exact absurd (.ok ()) departs

theorem run_flushed_stays (h : Host σ) {act : ShellM σ Unit} {running : Running σ}
    (stays : Stays (act.run running).1) :
    (ShellM.flushed h act).run running = afterFlush h (act.run running) := by
  rw [ShellM.flushed, ShellM.run_bind, ShellM.run_result]
  unfold afterFlush
  generalize act.run running = out at stays ⊢
  obtain ⟨result, next⟩ := out
  cases stays <;> dsimp only [ShellM.caught] <;> rw [ShellM.run_bind, ShellM.run_flush] <;>
    cases (h.flush next.host).1 <;> rfl

/-- The course of a builtin: its files are opened, and then it runs, which starts no program. What
it writes to the shell's own output is flushed, unless it ends the shell. -/
inductive BuiltinCourse (h : Host σ) (builtin : Builtin) (command : Command) (running : Running σ) :
    List Step → Except Halt Unit × Running σ → Prop
  | refused {opening : List Step} {e : ShellError} {s : σ} :
      openStreams h command running.host = (.error e, s) →
      Opens command.targets opening (.error e) →
      BuiltinCourse h builtin command running opening
        (.error (.failed e), { running with host := s })
  | redirected {opening more : List Step} {streams : Streams} {file : Handle} {s : σ} :
      openStreams h command running.host = (.ok streams, s) →
      Opens command.targets opening (.ok streams) → streams.output = some file →
      (∀ step ∈ more, step.Plain) →
      BuiltinCourse h builtin command running (opening ++ more)
        ((builtin.run h (h.write file) command.operands).run { running with host := s })
  | departed {opening more : List Step} {streams : Streams} {s : σ}
      {out : Except Halt Unit × Running σ} :
      openStreams h command running.host = (.ok streams, s) →
      Opens command.targets opening (.ok streams) → streams.output = none →
      (builtin.run h (h.write Handle.output) command.operands).run { running with host := s } =
        out → ¬Stays out.1 → (∀ step ∈ more, step.Plain) →
      BuiltinCourse h builtin command running (opening ++ more) out
  | flushed {opening more : List Step} {streams : Streams} {s : σ}
      {out : Except Halt Unit × Running σ} :
      openStreams h command running.host = (.ok streams, s) →
      Opens command.targets opening (.ok streams) → streams.output = none →
      (builtin.run h (h.write Handle.output) command.operands).run { running with host := s } =
        out → Stays out.1 → (∀ step ∈ more, step.Plain) →
      BuiltinCourse h builtin command running
        (opening ++ (more ++ [.flushed (h.flush out.2.host).1])) (afterFlush h out)

/-- The course of an external command is that of its launch. If the launch succeeds, the output is
flushed. -/
inductive ExternalCourse (h : Host σ) (command : Command) (running : Running σ) :
    List Step → Except Halt Unit × Running σ → Prop
  | stopped {steps : List Step} {e : ShellError} :
      (running.launch h command).1 = .error e →
      Course command running.shell.environment running.shell.mode.isInteractive running.shell.jobs
        (resolve h running.shell.environment command.program running.host) steps (.error e)
        (running.launched h command).shell.jobs →
      ExternalCourse h command running steps (.error (.failed e), running.launched h command)
  | through {steps : List Step} {id : Option JobId} :
      (running.launch h command).1 = .ok id →
      Course command running.shell.environment running.shell.mode.isInteractive running.shell.jobs
        (resolve h running.shell.environment command.program running.host) steps (.ok id)
        (running.launched h command).shell.jobs →
      ExternalCourse h command running
        (steps ++ [.flushed (h.flush (running.launched h command).host).1])
        (afterFlush h (.ok (), running.launched h command))

inductive LineCourse (h : Host σ) (line : String) (running : Running σ) :
    List Step → Except Halt Unit × Running σ → Prop
  | unread {e : LineError} : running.parse h line = .error e →
      LineCourse h line running [] (.error (.failed (.line e)), running)
  | builtin {command : Command} {builtin : Builtin} {steps : List Step}
      {out : Except Halt Unit × Running σ} :
      running.parse h line = .ok command → Builtin.ofName? command.program = some builtin →
      BuiltinCourse h builtin command running steps out → LineCourse h line running steps out
  | external {command : Command} {steps : List Step} {out : Except Halt Unit × Running σ} :
      running.parse h line = .ok command → Builtin.ofName? command.program = none →
      ExternalCourse h command running steps out → LineCourse h line running steps out

/-- An action with its steps written down goes as it does without, and this is its course. -/
def Takes (course : List Step → Except Halt Unit × Running σ → Prop) (act : ShellM σ Unit)
    (noted : ShellM (σ × List Step) Unit) (running : Running σ) : Prop :=
  ∃ steps, noted.run (running.beside []) =
      ((act.run running).1, (act.run running).2.beside steps) ∧ course steps (act.run running)

theorem run_runBuiltin (h : Host σ) (builtin : Builtin) (command : Command) (running : Running σ) :
    (runBuiltin h builtin command).run running =
      match openStreams h command running.host with
      | (.error e, host) => (.error (.failed e), { running with host })
      | (.ok streams, host) =>
          match streams.output with
          | some file =>
              (builtin.run h (h.write file) command.operands).run { running with host }
          | none =>
              (ShellM.flushed h (builtin.run h (h.write Handle.output) command.operands)).run
                { running with host } := by
  unfold runBuiltin
  rw [ShellM.run_bind, ShellM.run_attempt]
  rcases openStreams h command running.host with ⟨_ | streams, host⟩
  · rfl
  · dsimp only
    cases streams.output <;> rfl

theorem takes_runBuiltin (h : Host σ) (builtin : Builtin) (command : Command)
    (running : Running σ) :
    Takes (BuiltinCourse h builtin command running) (runBuiltin h builtin command)
      (runBuiltin h.noting builtin command) running := by
  obtain ⟨opening, same, opens⟩ := openStreams_noting h command running.host []
  have noted := run_runBuiltin h.noting builtin command (running.beside [])
  rw [show (running.beside ([] : List Step)).host = (running.host, []) from rfl, same,
    List.nil_append] at noted
  unfold Takes
  rw [noted, run_runBuiltin]
  generalize opened : openStreams h command running.host = out at opens
  obtain ⟨e | streams, s⟩ := out
  · exact ⟨opening, rfl, .refused opened opens⟩
  dsimp only at opens ⊢
  have ran handle := (Builtin.quiet_run (shadows_noting h) ((shadows_noting h).write handle)
    command.operands builtin).same { running with host := s } opening
  cases target : streams.output with
  | some file =>
      obtain ⟨_, ⟨more, rfl, plain⟩, same⟩ := ran file
      exact ⟨opening ++ more, same, .redirected opened opens target plain⟩
  | none =>
      obtain ⟨_, ⟨more, rfl, plain⟩, same⟩ := ran Handle.output
      generalize act : builtin.run h (h.write Handle.output) command.operands = run at same
      show ∃ steps, (ShellM.flushed h.noting _).run
        (Running.beside { running with host := s } opening) = _ ∧ _
      by_cases stays : Stays (run.run { running with host := s }).1
      · rw [run_flushed_stays h stays, run_flushed_stays h.noting (by rwa [same]), same,
          afterFlush_noting, List.append_assoc]
        exact ⟨_, rfl, .flushed opened opens target (by rw [act]) stays plain⟩
      · rw [run_flushed_departed h stays, run_flushed_departed h.noting (by rwa [same]), same]
        exact ⟨_, rfl, .departed opened opens target (by rw [act]) stays plain⟩

theorem takes_runExternal (h : Host σ) (command : Command) (running : Running σ) :
    Takes (ExternalCourse h command running) (runExternal h command)
      (runExternal h.noting command) running := by
  obtain ⟨steps, same, course⟩ := launch_noting h running.shell.environment
    running.shell.mode.isInteractive (h.write Handle.output) command running.shell.jobs running.host
  have launch : (running.beside []).launch h.noting command =
      ((running.launch h command).1, (running.launch h command).2.1,
        (running.launch h command).2.2, steps) := same
  have launched : (running.beside []).launched h.noting command =
      (running.launched h command).beside steps := by
    unfold Running.launched
    rw [launch]
    rfl
  unfold Takes
  rw [run_runExternal, run_runExternal, launch, launched]
  change Course _ _ _ _ _ steps (running.launch h command).1 _ at course
  cases went : (running.launch h command).1 with
  | error e =>
      rw [went] at course
      exact ⟨steps, rfl, .stopped went course⟩
  | ok id =>
      rw [went] at course
      dsimp only
      rw [run_flush_eq, run_flush_eq, afterFlush_noting]
      exact ⟨_, rfl, .through went course⟩

theorem launch_untouched (h : Host σ) (env : Environment) (shielded : Bool) (write : Writer σ)
    (command : Command) (jobs : JobTable) (s : σ)
    (missing : resolve h env command.program s = none) :
    (launch h env shielded write command jobs s).2.2 = s := by
  rw [launch, missing]

theorem Course.none_of_nil {command : Command} {env : Environment} {shielded : Bool}
    {jobs table : JobTable} {file : Option String} {result : Except ShellError (Option JobId)}
    (h : Course command env shielded jobs file [] result table) : file = none := by
  generalize none : [] = steps at h
  cases h with
  | notFound => rfl
  | refused path opens => exact absurd none.symm opens.ne_nil
  | reached path opens runs => cases runs <;> simp at none

theorem takes_runLine (h : Host σ) (line : String) (running : Running σ) :
    Takes (LineCourse h line running) (runLine h line) (runLine h.noting line) running := by
  have read : (running.beside []).parse h.noting line = running.parse h line := rfl
  unfold Takes
  rw [run_runLine, run_runLine, read]
  cases parsed : running.parse h line with
  | error e => exact ⟨[], rfl, .unread parsed⟩
  | ok command =>
      dsimp only
      cases named : Builtin.ofName? command.program with
      | some builtin =>
          obtain ⟨steps, same, course⟩ := takes_runBuiltin h builtin command running
          exact ⟨steps, same, .builtin parsed named course⟩
      | none =>
          obtain ⟨steps, same, course⟩ := takes_runExternal h command running
          exact ⟨steps, same, .external parsed named course⟩

section
variable {h : Host σ} {command : Command} {running : Running σ} {steps : List Step}
  {out : Except Halt Unit × Running σ}

theorem BuiltinCourse.jobs {builtin : Builtin}
    (course : BuiltinCourse h builtin command running steps out) :
    out.2.shell.jobs = running.shell.jobs := by
  have quiet handle := Builtin.quiet_run h.shadows_recorded (h.shadows_recorded.write handle)
    command.operands builtin
  cases course with
  | refused => rfl
  | @redirected _ _ _ file s => exact ((quiet file).shell { running with host := s }).jobs
  | @departed _ _ _ s _ _ _ _ ran | @flushed _ _ _ s _ _ _ _ ran =>
      have kept := ((quiet Handle.output).shell { running with host := s }).jobs
      rw [ran] at kept
      exact kept

theorem BuiltinCourse.childless {builtin : Builtin}
    (course : BuiltinCourse h builtin command running steps out) :
    steps.filterMap Step.child? = [] := by
  cases course with
  | refused _ opens => exact opens.childless
  | redirected _ opens _ plain | departed _ opens _ _ _ plain =>
      rw [List.filterMap_append, opens.childless, Step.Plain.childless plain]
      rfl
  | flushed _ opens _ _ _ plain =>
      rw [List.filterMap_append, List.filterMap_append, opens.childless,
        Step.Plain.childless plain]
      rfl

theorem ExternalCourse.tracked (course : ExternalCourse h command running steps out) :
    Tracked command running.shell.jobs steps out.2.shell.jobs := by
  cases course with
  | stopped _ course => exact course.tracked
  | through _ course => exact course.tracked.before rfl

theorem LineCourse.tracked {line : String} (course : LineCourse h line running steps out)
    (parsed : running.parse h line = .ok command) :
    Tracked command running.shell.jobs steps out.2.shell.jobs := by
  cases course with
  | unread unread => cases unread.symm.trans parsed
  | builtin same _ course =>
      cases same.symm.trans parsed
      exact .inr ⟨course.childless, course.jobs⟩
  | external same _ course =>
      cases same.symm.trans parsed
      exact course.tracked

end

/-- Running a command stops at the first step that fails, and each process that is started in the
background has its job. An external command is looked for first, and nothing is done about one that
is not found; then its files are opened in turn, then it is started. A builtin has its files opened
the same way; it starts nothing and leaves the jobs alone. A line takes the course of the builtin or
of the external command on it, and whatever it runs, the table of jobs gains one job just when a
process was started. -/
theorem commands_stop_and_are_tracked (h : Host σ) :
    (∀ command env shielded (write : Writer σ) jobs s,
      let (result, table, last) := launch h env shielded write command jobs s
      ∃ steps,
        launch h.noting env shielded write.noting command jobs (s, []) =
          (result, table, last, steps) ∧
        Course command env shielded jobs (resolve h env command.program s) steps result table ∧
        Tracked command jobs steps table ∧ (steps = [] → last = s)) ∧
    (∀ builtin command (running : Running σ),
      Takes (fun steps out => BuiltinCourse h builtin command running steps out ∧
          steps.filterMap Step.child? = [] ∧ out.2.shell.jobs = running.shell.jobs)
        (runBuiltin h builtin command) (runBuiltin h.noting builtin command) running) ∧
    ∀ line (running : Running σ),
      Takes (fun steps out => LineCourse h line running steps out ∧
          ∀ command, running.parse h line = .ok command →
            Tracked command running.shell.jobs steps out.2.shell.jobs)
        (runLine h line) (runLine h.noting line) running := by
  refine ⟨fun command env shielded write jobs s => ?_, fun builtin command running => ?_,
    fun line running => ?_⟩
  · obtain ⟨steps, same, course⟩ := launch_noting h env shielded write command jobs s
    refine ⟨steps, same, course, course.tracked, ?_⟩
    rintro rfl
    exact launch_untouched h env shielded write command jobs s course.none_of_nil
  · obtain ⟨steps, same, course⟩ := takes_runBuiltin h builtin command running
    exact ⟨steps, same, course, course.childless, course.jobs⟩
  · obtain ⟨steps, same, course⟩ := takes_runLine h line running
    exact ⟨steps, same, course, fun command parsed => course.tracked parsed⟩

end LineShell

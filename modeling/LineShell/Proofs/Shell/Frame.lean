import LineShell.Execute
import LineShell.Proofs.Shell.Line

/-!
What a line keeps. A relation between two moments of a running shell that holds across each single
operation of the system, and across every change of the shell that leaves its history alone, holds
across the running of any line; where a line ends the shell, a relation of its own holds. Only the
builtin that is there for it ends a shell.
-/
namespace LineShell
variable {σ α β : Type}

section
variable {R : σ → σ → Prop} (refl : ∀ s, R s s)
include refl

theorem openTarget_keeps {openFile : String → σ → Except IoError Handle × σ}
    (opens : ∀ path s, R s (openFile path s).2) (stream : Stream) (path : Option String) (s : σ) :
    R s (openTarget openFile stream path s).2 := by
  cases path with
  | none => exact refl s
  | some path =>
      have opened := opens path s
      rw [openTarget]
      generalize openFile path s = out at opened ⊢
      obtain ⟨_ | handle, next⟩ := out <;> exact opened

variable (trans : ∀ {a b c}, R a b → R b c → R a c)
include trans

theorem openStreams_keeps {h : Host σ} (inputs : ∀ path s, R s (h.openInput path s).2)
    (outputs : ∀ append path s, R s (h.openOutput append path s).2) (command : Command) (s : σ) :
    R s (openStreams h command s).2 := by
  have output append := openTarget_keeps refl (outputs append)
  have first := openTarget_keeps refl inputs .input command.inputFile s
  rw [openStreams]
  generalize openTarget h.openInput .input command.inputFile s = out at first ⊢
  obtain ⟨_ | input, s₁⟩ := out
  · exact first
  have second := trans first (output command.append .output command.outputFile s₁)
  dsimp only at second ⊢
  generalize openTarget (h.openOutput command.append) .output command.outputFile s₁ = out
    at second ⊢
  obtain ⟨_ | written, s₂⟩ := out
  · exact second
  have third := trans second (output false .error command.errorFile s₂)
  dsimp only at third ⊢
  generalize openTarget (h.openOutput false) .error command.errorFile s₂ = out at third ⊢
  obtain ⟨_ | errors, s₃⟩ := out <;> exact third

theorem launch_keeps {h : Host σ} {write : Writer σ}
    (inputs : ∀ path s, R s (h.openInput path s).2)
    (outputs : ∀ append path s, R s (h.openOutput append path s).2)
    (starts : ∀ program s, R s (h.start program s).2)
    (runs : ∀ program s, R s (h.run program s).2) (writes : ∀ text s, R s (write text s).2)
    (env : Environment) (shielded : Bool) (command : Command) (jobs : JobTable) (s : σ) :
    R s (launch h env shielded write command jobs s).2.2 := by
  unfold launch
  cases resolve h env command.program s with
  | none => exact refl s
  | some path =>
      have first := openStreams_keeps refl trans inputs outputs command s
      dsimp only
      generalize openStreams h command s = out at first ⊢
      obtain ⟨_ | streams, s₁⟩ := out
      · exact first
      dsimp only
      generalize Program.mk path command.program _ env streams _ = program
      cases command.background with
      | true =>
          have second := trans first (starts program s₁)
          simp only [if_true]
          generalize h.start program s₁ = out at second ⊢
          obtain ⟨_ | pid, s₂⟩ := out
          · exact second
          dsimp only
          generalize jobs.register pid command.argv = added
          have third := trans second (writes (added.1.announcement ++ "\n") s₂)
          generalize write (added.1.announcement ++ "\n") s₂ = out at third ⊢
          obtain ⟨_ | _, s₃⟩ := out <;> exact third
      | false =>
          have second := trans first (runs program s₁)
          simp only [Bool.false_eq_true, if_false]
          generalize h.run program s₁ = out at second ⊢
          obtain ⟨_ | status, s₂⟩ := out
          · exact second
          · dsimp only
            split <;> exact second

theorem sweep_keeps {probe : Probe σ} {write : Writer σ} (probes : ∀ pid s, R s (probe pid s).2)
    (writes : ∀ text s, R s (write text s).2) (jobs : List Job) (so : Except IoError Unit) (s : σ) :
    R s (JobTable.sweep probe write jobs so s).2.2 := by
  induction jobs generalizing so s with
  | nil => exact refl s
  | cons job rest ih =>
      have asked := probes job.pid s
      cases h : ProbeCall.sawExit ⟨job.pid, (probe job.pid s).1⟩ with
      | true =>
          rw [JobTable.sweep_exited probe write job rest so s h]
          refine trans asked (trans ?_ (ih _ _))
          cases so with
          | ok _ => exact writes _ _
          | error e => exact refl _
      | false =>
          rw [JobTable.sweep_kept probe write job rest so s h]
          exact trans asked (ih so _)

end

theorem run_report (h : Host σ) (e : ShellError) (running : Running σ) :
    (report h e).run running =
      ((h.write Handle.errors (e.report ++ "\n") running.host).1.mapError fun _ => .broken,
        { running with host := (h.write Handle.errors (e.report ++ "\n") running.host).2 }) :=
  ShellM.run_insist _ _ running

/-- The user is told about a failure, which changes nothing of the shell; or it breaks off. -/
theorem report_cases (h : Host σ) (e : ShellError) (running : Running σ) :
    ∃ host, (report h e).run running = (.ok (), { running with host }) ∨
      (report h e).run running = (.error .broken, { running with host }) := by
  rw [run_report]
  rcases h.write Handle.errors (e.report ++ "\n") running.host with ⟨_ | _, host⟩
  · exact ⟨host, .inr rfl⟩
  · exact ⟨host, .inl rfl⟩

/-- Relations that hold across what a single operation does: `R` as long as the shell is there, and
`E` to its end. -/
structure Frame (h : Host σ) (R : Running σ → Running σ → Prop)
    (E : Halt → Running σ → Running σ → Prop) : Prop where
  trans : ∀ {a b c}, R a b → R b c → R a c
  stop : ∀ {a b c} {halt : Halt}, R a b → E halt b c → E halt a c
  shell : ∀ (a : Running σ) (shell : Shell), shell.history = a.shell.history →
    shell.historyPath = a.shell.historyPath → R a { a with shell }
  enterDir : ∀ (a : Running σ) path host, h.enterDir path a.host = .ok host → R a { a with host }
  openInput : ∀ (a : Running σ) path, R a { a with host := (h.openInput path a.host).2 }
  openOutput : ∀ (a : Running σ) append path,
    R a { a with host := (h.openOutput append path a.host).2 }
  write : ∀ (a : Running σ) handle text, R a { a with host := (h.write handle text a.host).2 }
  flush : ∀ a : Running σ, R a { a with host := (h.flush a.host).2 }
  start : ∀ (a : Running σ) program, R a { a with host := (h.start program a.host).2 }
  run : ∀ (a : Running σ) program, R a { a with host := (h.run program a.host).2 }
  probe : ∀ (a : Running σ) pid, R a { a with host := (h.probe pid a.host).2 }

/-- The relation to its end holds where a shell leaves, which saves its history, and where it breaks
off, for something could not be said. -/
structure Parting (h : Host σ) (E : Halt → Running σ → Running σ → Prop) : Prop where
  exits : ∀ (a : Running σ) code,
    E (.exited code) a { a with host := ShellM.save h a.shell a.host }
  breaks : ∀ (a : Running σ) handle text,
    E .broken a { a with host := (h.write handle text a.host).2 }

def Below (R : Running σ → Running σ → Prop) (a : Running σ) (s t : σ) : Prop :=
  R { a with host := s } { a with host := t }

/-- How the end of an action stands to its start. -/
inductive Stands (R : Running σ → Running σ → Prop) (E : Halt → Running σ → Running σ → Prop)
    (a : Running σ) : Except Halt α × Running σ → Prop
  | ok {x : α} {b : Running σ} : R a b → Stands R E a (.ok x, b)
  | failed {e : ShellError} {b : Running σ} : R a b → Stands R E a (.error (.failed e), b)
  | exited {code : Nat} {b : Running σ} : E (.exited code) a b →
      Stands R E a (.error (.exited code), b)
  | broken {b : Running σ} : E .broken a b → Stands R E a (.error .broken, b)

def Framed (R : Running σ → Running σ → Prop) (E : Halt → Running σ → Running σ → Prop)
    (m : ShellM σ α) : Prop :=
  ∀ a, Stands R E a (m.run a)

namespace Frame
variable {h : Host σ} {R : Running σ → Running σ → Prop}
  {E : Halt → Running σ → Running σ → Prop} (frame : Frame h R E)
include frame

theorem refl (a : Running σ) : R a a :=
  frame.shell a a.shell rfl rfl

theorem after {a b : Running σ} {out : Except Halt α × Running σ} (first : R a b)
    (rest : Stands R E b out) : Stands R E a out := by
  cases rest with
  | ok kept => exact .ok (frame.trans first kept)
  | failed kept => exact .failed (frame.trans first kept)
  | exited parts => exact .exited (frame.stop first parts)
  | broken parts => exact .broken (frame.stop first parts)

theorem pure (x : α) : Framed R E (Pure.pure x : ShellM σ α) :=
  fun a => .ok (frame.refl a)

theorem fail (e : ShellError) : Framed R E (ShellM.fail e : ShellM σ α) :=
  fun a => .failed (frame.refl a)

theorem bind {m : ShellM σ α} {f : α → ShellM σ β} (hm : Framed R E m)
    (hf : ∀ x, Framed R E (f x)) : Framed R E (m >>= f) := by
  intro a
  have first := hm a
  rw [ShellM.run_bind]
  generalize m.run a = out at first ⊢
  cases first with
  | @ok x b kept => exact frame.after kept (hf x b)
  | failed kept => exact .failed kept
  | exited parts => exact .exited parts
  | broken parts => exact .broken parts

omit frame in
theorem ite {c : Prop} [Decidable c] {m m' : ShellM σ α} (hm : Framed R E m)
    (hm' : Framed R E m') : Framed R E (if c then m else m') := by
  split
  · exact hm
  · exact hm'

theorem onlyIf {c : Prop} [Decidable c] {m : ShellM σ Unit} {f : Unit → ShellM σ α}
    (hm : Framed R E m) (hf : ∀ x, Framed R E (f x)) :
    Framed R E (if c then m >>= f else f ()) :=
  ite (frame.bind hm hf) (hf ())

omit frame in
theorem read {f : Running σ → ShellM σ α} (hf : ∀ running, Framed R E (f running)) :
    Framed R E (get >>= f) :=
  fun a => hf a a

theorem query (ask : σ → Except IoError α) : Framed R E (ShellM.query ask) := by
  intro a
  rw [ShellM.run_query]
  cases ask a.host with
  | ok x => exact .ok (frame.refl a)
  | error e => exact .failed (frame.refl a)

omit frame in
theorem attempt {act : σ → α × σ} (kept : ∀ a : Running σ, R a { a with host := (act a.host).2 }) :
    Framed R E (ShellM.attempt act) :=
  fun a => .ok (kept a)

theorem emit (handle : Handle) (text : String) :
    Framed R E (ShellM.emit (h.write handle) text) := by
  refine frame.bind (attempt fun a => frame.write a handle text) fun result => ?_
  cases result with
  | ok x => exact frame.pure x
  | error e => exact frame.fail (.io e)

theorem insist (parting : Parting h E) (handle : Handle) (text : String) :
    Framed R E (ShellM.insist (h.write handle) text) := by
  intro a
  have said := frame.write a handle text
  have unsaid := parting.breaks a handle text
  rw [ShellM.run_insist]
  generalize h.write handle text a.host = out at said unsaid ⊢
  obtain ⟨_ | _, s⟩ := out
  · exact .broken unsaid
  · exact .ok said

theorem flushes : Framed R E (ShellM.flush h) := by
  refine frame.bind (attempt fun a => frame.flush a) fun result => ?_
  cases result with
  | ok x => exact frame.pure x
  | error e => exact frame.fail (.io e)

omit frame in
theorem result {m : ShellM σ α} (hm : Framed R E m) : Framed R E (ShellM.result m) := by
  intro a
  have ran := hm a
  rw [ShellM.run_result]
  generalize m.run a = out at ran ⊢
  cases ran with
  | ok kept | failed kept => exact .ok kept
  | exited parts => exact .exited parts
  | broken parts => exact .broken parts

theorem flushed {m : ShellM σ α} (hm : Framed R E m) : Framed R E (ShellM.flushed h m) := by
  refine frame.bind (result hm) fun went => frame.bind frame.flushes fun _ => ?_
  cases went with
  | ok x => exact frame.pure x
  | error e => exact frame.fail e

theorem environment : Framed R E (ShellM.environment : ShellM σ Environment) :=
  read fun running => frame.pure running.shell.environment

theorem homeDir : Framed R E (ShellM.homeDir h) :=
  read fun running => frame.pure (h.homeDir running.shell.environment running.host)

theorem changeEnvironment (change : Environment → Environment) :
    Framed R E (ShellM.changeEnvironment change : ShellM σ Unit) :=
  fun a => .ok (frame.shell a { a.shell with environment := change a.shell.environment } rfl rfl)

theorem forM {items : List α} {f : α → ShellM σ Unit} (hf : ∀ x, Framed R E (f x)) :
    Framed R E (items.forM f) := by
  induction items with
  | nil => exact frame.pure ()
  | cons item rest ih => exact frame.bind (hf item) fun _ => ih

/-- A shell says goodbye, if it does, or breaks off. -/
theorem bidsGoodbye (parting : Parting h E) (a : Running σ) :
    Stands R E a ((ShellM.goodbye h a.shell a.host).1.mapError fun _ => .broken,
      { a with host := (ShellM.goodbye h a.shell a.host).2 }) := by
  unfold ShellM.goodbye
  split
  · rw [← ShellM.run_insist]
    exact frame.insist parting Handle.output "exit\n" a
  · exact .ok (frame.refl a)

theorem quits (parting : Parting h E) (status : Option WaitStatus) :
    Framed R E (ShellM.quit h status : ShellM σ α) := by
  intro a
  have said := frame.bidsGoodbye parting a
  rw [ShellM.run_quit]
  generalize ShellM.goodbye h a.shell a.host = out at said ⊢
  obtain ⟨_ | _, s⟩ := out
  · cases said with
    | broken parts => exact .broken parts
  · cases said with
    | ok kept => exact .exited (frame.stop kept (parting.exits { a with host := s } _))

theorem changeTarget (handle : Handle) (target : Option String) :
    Framed R E (Builtin.changeTarget h (h.write handle) target) := by
  unfold Builtin.changeTarget
  split
  case h_3 =>
    refine frame.bind frame.environment fun env => ?_
    cases env.get? "OLDPWD" with
    | none => exact frame.fail _
    | some directory => exact frame.bind (frame.emit handle _) fun _ => frame.pure directory
  case h_4 => exact frame.pure _
  -- No directory at all and a tilde mean the same.
  all_goals
    refine frame.bind frame.homeDir fun home => ?_
    cases home with
    | none => exact frame.fail _
    | some home => exact frame.pure home

theorem enter (directory : String) : Framed R E (Builtin.enter h directory) := by
  intro a
  have entered := frame.enterDir a directory
  rw [Builtin.run_enter]
  cases result : h.enterDir directory a.host with
  | ok host => exact .ok (entered host result)
  | error e => exact .failed (frame.refl a)

theorem runChangeDir (handle : Handle) (args : List String) :
    Framed R E (Builtin.runChangeDir h (h.write handle) args) := by
  unfold Builtin.runChangeDir
  refine frame.onlyIf (frame.fail _) fun _ => ?_
  refine frame.bind (frame.changeTarget handle _) fun directory => ?_
  refine frame.bind (frame.query _) fun before => ?_
  refine frame.bind (frame.enter _) fun _ => ?_
  refine frame.bind (frame.changeEnvironment _) fun _ => ?_
  exact frame.bind (frame.query _) fun now => frame.changeEnvironment _

theorem writeJobs (handle : Handle) (request : Builtin.JobsRequest) (jobs : JobTable) :
    Framed R E (Builtin.writeJobs (h.write handle) request jobs) := by
  refine ite ?_ (frame.forM fun id => ?_)
  · cases jobs.list with
    | empty => exact ite (frame.emit handle _) (frame.pure ())
    | rows rows => exact frame.forM fun job => frame.emit handle _
  · cases jobs.get id with
    | ok job => exact frame.emit handle _
    | error e => exact frame.fail e

theorem runJobs (handle : Handle) (args : List String) :
    Framed R E (Builtin.runJobs (h.write handle) args) := by
  unfold Builtin.runJobs
  cases Builtin.JobsRequest.ofArgs args with
  | error e => exact frame.fail (.usage e)
  | ok request => exact read fun running => frame.writeJobs handle request running.shell.jobs

theorem runExport (handle : Handle) (args : List String) :
    Framed R E (Builtin.runExport (h.write handle) args) := by
  refine ite (frame.bind frame.environment fun env => frame.forM fun entry => ?_) ?_
  · exact frame.emit handle _
  · refine frame.bind (frame.changeEnvironment _) fun _ => ?_
    exact ite (frame.fail _) (frame.pure ())

theorem runUnset (args : List String) : Framed R E (Builtin.runUnset args : ShellM σ Unit) := by
  refine frame.bind (frame.changeEnvironment _) fun _ => ?_
  exact ite (frame.fail _) (frame.pure ())

theorem runHelp (handle : Handle) (topics : List String) :
    Framed R E (Builtin.runHelp (h.write handle) topics) := by
  refine ite (frame.forM fun builtin => frame.emit handle _) ?_
  refine frame.bind (frame.forM fun builtin => frame.emit handle _) fun _ => ?_
  exact ite (frame.fail _) (frame.pure ())

theorem runExit (parting : Parting h E) (args : List String) :
    Framed R E (Builtin.runExit h args) := by
  unfold Builtin.runExit
  refine frame.onlyIf (frame.fail _) fun _ => ?_
  cases args.head? with
  | none => exact frame.quits parting none
  | some arg =>
      dsimp only
      cases Builtin.exitStatus? arg with
      | some status => exact frame.quits parting _
      | none => exact frame.bind (frame.insist parting _ _) fun _ => frame.quits parting _

theorem runNamed (handle : Handle) (args : List String) {builtin : Builtin}
    (parting : builtin = .exit → Parting h E) :
    Framed R E (builtin.run h (h.write handle) args) := by
  cases builtin with
  | changeDir => exact frame.runChangeDir handle args
  | clear | echo => exact frame.emit handle _
  | exit => exact frame.runExit (parting rfl) args
  | exportVars => exact frame.runExport handle args
  | help => exact frame.runHelp handle args
  | jobs => exact frame.runJobs handle args
  | printDir => exact frame.bind (frame.query _) fun _ => frame.emit handle _
  | unsetVars => exact frame.runUnset args

theorem opensStreams (command : Command) (a : Running σ) :
    R a { a with host := (openStreams h command a.host).2 } :=
  openStreams_keeps (R := Below R a) (fun s => frame.refl { a with host := s }) frame.trans
    (fun path s => frame.openInput { a with host := s } path)
    (fun append path s => frame.openOutput { a with host := s } append path) command a.host

theorem runsBuiltin {builtin : Builtin} (parting : builtin = .exit → Parting h E)
    (command : Command) : Framed R E (runBuiltin h builtin command) := by
  refine frame.bind (attempt (frame.opensStreams command)) fun result => ?_
  cases result with
  | error e => exact frame.fail e
  | ok streams =>
      dsimp only
      cases streams.output with
      | some file => exact frame.runNamed file command.operands parting
      | none => exact frame.flushed (frame.runNamed Handle.output command.operands parting)

theorem runsExternal (command : Command) : Framed R E (runExternal h command) := by
  intro a
  have launched : R a { a with host := (a.launch h command).2.2 } :=
    launch_keeps (R := Below R a) (fun s => frame.refl { a with host := s }) frame.trans
      (fun path s => frame.openInput { a with host := s } path)
      (fun append path s => frame.openOutput { a with host := s } append path)
      (fun program s => frame.start { a with host := s } program)
      (fun program s => frame.run { a with host := s } program)
      (fun text s => frame.write { a with host := s } Handle.output text) _ _ command _ a.host
  have listed : R a (a.launched h command) := frame.trans launched
    (frame.shell _ { a.shell with jobs := (a.launch h command).2.1 } rfl rfl)
  rw [run_runExternal]
  cases (a.launch h command).1 with
  | error e => exact .failed listed
  | ok id => exact frame.after listed (frame.flushes _)

theorem runsLine {line : String} {a : Running σ} (parting : RunsExit h line a → Parting h E) :
    Stands R E a ((runLine h line).run a) := by
  rw [run_runLine]
  cases parsed : a.parse h line with
  | error e => exact .failed (frame.refl a)
  | ok command =>
      dsimp only
      cases named : Builtin.ofName? command.program with
      | none => exact frame.runsExternal command a
      | some builtin =>
          refine frame.runsBuiltin (fun same => parting ⟨command, parsed, ?_⟩) command a
          rw [named, same]

theorem sweeps (a : Running σ) : R a (a.reap h) := by
  have swept : R a { a with host := (a.reap h).host } :=
    sweep_keeps (R := Below R a) (fun s => frame.refl { a with host := s }) frame.trans
      (fun pid s => frame.probe { a with host := s } pid)
      (fun text s => frame.write { a with host := s } Handle.output text)
      a.shell.jobs.jobs (.ok ()) a.host
  exact frame.trans swept
    (frame.shell _ { a.shell with jobs := (a.reap h).shell.jobs } rfl rfl)

theorem settles (status : WaitStatus) (a : Running σ) : R a ((a.settle status).reap h) :=
  frame.trans (frame.shell a { a.shell with lastStatus := status } rfl rfl)
    (frame.sweeps (a.settle status))

/-- A line that is not blank keeps a frame from the moment it has been remembered. -/
theorem executes {text : String} (nonblank : effective text ≠ "") (a : Running σ)
    (parting : RunsExit h (effective text) a → Parting h E) :
    Stands R E (a.remember (effective text)) (execute h text a) := by
  have ran : Stands R E (a.remember (effective text)) ((runLine h (effective text)).run _) :=
    frame.runsLine (parting ∘ runsExit_remember.mp)
  rw [execute_nonblank h nonblank]
  generalize (runLine h (effective text)).run (a.remember (effective text)) = out at ran ⊢
  cases ran with
  | @ok _ next kept => exact .ok (frame.trans kept (frame.settles .success next))
  | @failed e next kept => exact .failed (frame.trans kept (frame.settles e.status next))
  | exited parts => exact .exited parts
  | broken parts => exact .broken parts

theorem reports (parting : Parting h E) (e : ShellError) : Framed R E (report h e) :=
  frame.insist parting Handle.errors _

end Frame

theorem frame_true (h : Host σ) : Frame h (fun _ _ => True) (fun _ _ _ => False) where
  trans _ _ := trivial
  stop _ parts := parts
  shell _ _ _ _ := trivial
  enterDir _ _ _ _ := trivial
  openInput _ _ := trivial
  openOutput _ _ _ := trivial
  write _ _ _ := trivial
  flush _ := trivial
  start _ _ := trivial
  run _ _ := trivial
  probe _ _ := trivial

/-- Only the builtin that is there for it ends a shell. -/
theorem execute_stays {h : Host σ} {text : String} {running : Running σ}
    (other : ¬RunsExit h (effective text) running) :
    Stays (execute h text running).1 := by
  by_cases blank : effective text = ""
  · rw [execute_blank h blank]
    exact .ok ()
  have stands := (frame_true h).executes blank running fun ends => absurd ends other
  generalize execute h text running = out at stands ⊢
  cases stands with
  | ok _ => exact .ok _
  | failed _ => exact .failed _
  | exited parts | broken parts => exact parts.elim

end LineShell

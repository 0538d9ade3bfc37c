import LineShell.Proofs.Job.Sweep
import LineShell.Proofs.Shell.Code
import LineShell.Shell
import Mathlib.Order.Defs.Unbundled

/-!
Actions that leave the books alone. Such an action may change the variables of the shell and what
the system holds; the jobs, the history and the last status stay, and each failure is of a kind with
a code. The same action on a system with more beside it takes the same course, and what is beside
changes only as a preorder allows. These facts are kept when actions are put together, so each is
proved of the parts only.
-/
namespace LineShell
variable {σ τ α β : Type}

def Host.recorded (h : Host σ) : Host (σ × List ProbeCall) :=
  { h.beside (List ProbeCall) with probe := Probe.recorded h.probe }

def Running.beside (running : Running σ) (t : τ) : Running (σ × τ) :=
  { shell := running.shell, host := (running.host, t) }

/-- What only the running of lines changes. -/
structure Shell.SameBooks (before after : Shell) : Prop where
  mode : after.mode = before.mode
  jobs : after.jobs = before.jobs
  history : after.history = before.history
  lastStatus : after.lastStatus = before.lastStatus

theorem Shell.SameBooks.refl (shell : Shell) : shell.SameBooks shell :=
  ⟨rfl, rfl, rfl, rfl⟩

theorem Shell.SameBooks.trans {a b c : Shell} (hab : a.SameBooks b) (hbc : b.SameBooks c) :
    a.SameBooks c :=
  ⟨hbc.mode.trans hab.mode, hbc.jobs.trans hab.jobs, hbc.history.trans hab.history,
    hbc.lastStatus.trans hab.lastStatus⟩

def Alongside (S : τ → τ → Prop) (t : τ) (out : α × σ) (out' : α × (σ × τ)) : Prop :=
  ∃ t', S t t' ∧ out' = (out.1, out.2, t')

theorem Alongside.same {S : τ → τ → Prop} [IsPreorder τ S] (t : τ) (out : α × σ) :
    Alongside S t out (out.1, out.2, t) :=
  ⟨t, refl_of S t, rfl⟩

def Writer.Shadows (S : τ → τ → Prop) (write : Writer σ) (write' : Writer (σ × τ)) : Prop :=
  ∀ text s t, Alongside S t (write text s) (write' text (s, t))

/-- A system with something beside it, which changes as `S` allows when the shell itself goes
somewhere, writes or saves. -/
structure Host.Shadows (S : τ → τ → Prop) (h : Host σ) (h' : Host (σ × τ)) : Prop where
  homeDir : ∀ env s t, h'.homeDir env (s, t) = h.homeDir env s
  currentDir : ∀ s t, h'.currentDir (s, t) = h.currentDir s
  enterDir : ∀ path s t, ∃ t', S t t' ∧
    h'.enterDir path (s, t) = (h.enterDir path s).map (·, t')
  replaceFile : ∀ path bytes s t,
    Alongside S t (h.replaceFile path bytes s) (h'.replaceFile path bytes (s, t))
  write : ∀ handle, (h.write handle).Shadows S (h'.write handle)
  flush : ∀ s t, Alongside S t (h.flush s) (h'.flush (s, t))

theorem Host.shadows_recorded (h : Host σ) : h.Shadows Eq h.recorded where
  homeDir _ _ _ := rfl
  currentDir _ _ := rfl
  enterDir _ _ t := ⟨t, rfl, rfl⟩
  replaceFile _ _ _ t := .same t _
  write _ _ _ t := .same t _
  flush _ t := .same t _

/-- An action beside the same action on the system with more beside it: it takes the same course,
what is beside changes as `S` allows and the shell as `R` allows, and failures have a code. -/
structure Acts (R : Shell → Shell → Prop) (S : τ → τ → Prop) (m : ShellM σ α)
    (m' : ShellM (σ × τ) α) : Prop where
  same : ∀ (running : Running σ) t, ∃ t', S t t' ∧
    m'.run (running.beside t) = ((m.run running).1, (m.run running).2.beside t')
  shell : ∀ running : Running σ, R running.shell (m.run running).2.shell
  failure : ∀ (running : Running σ) (e : ShellError),
    (m.run running).1 = .error (.failed e) → ∃ code, e.Leaves code

theorem Acts.same_beside {R : Shell → Shell → Prop} {m : ShellM σ α} {m' : ShellM (σ × τ) α}
    (hm : Acts R Eq m m') (running : Running σ) (t : τ) :
    m'.run (running.beside t) = ((m.run running).1, (m.run running).2.beside t) := by
  obtain ⟨_, rfl, same⟩ := hm.same running t
  exact same

abbrev Quiet (S : τ → τ → Prop) (m : ShellM σ α) (m' : ShellM (σ × τ) α) : Prop :=
  Acts Shell.SameBooks S m m'

namespace ShellM

theorem run_pure (a : α) (running : Running σ) :
    (pure a : ShellM σ α).run running = (.ok a, running) := rfl

theorem run_throw (halt : Halt) (running : Running σ) :
    (throw halt : ShellM σ α).run running = (.error halt, running) := rfl

theorem run_get (running : Running σ) :
    (get : ShellM σ (Running σ)).run running = (.ok running, running) := rfl

theorem run_bind (m : ShellM σ α) (f : α → ShellM σ β) (running : Running σ) :
    (m >>= f).run running =
      match m.run running with
      | (.ok a, next) => (f a).run next
      | (.error halt, next) => (.error halt, next) := by
  show (ExceptT.bindCont f (m.run running).1) (m.run running).2 = _
  rcases m.run running with ⟨_ | a, next⟩ <;> rfl

theorem run_query (ask : σ → Except IoError α) (running : Running σ) :
    (query ask).run running =
      ((ask running.host).mapError fun e => .failed (.io e), running) := by
  rw [query, run_bind, run_get]
  dsimp only
  cases ask running.host <;> rfl

theorem run_attempt (act : σ → α × σ) (running : Running σ) :
    (attempt act).run running =
      (.ok (act running.host).1, { running with host := (act running.host).2 }) := rfl

theorem run_emit (write : Writer σ) (text : String) (running : Running σ) :
    (emit write text).run running =
      ((write text running.host).1.mapError fun e => .failed (.io e),
        { running with host := (write text running.host).2 }) := by
  rw [emit, run_bind, run_attempt]
  dsimp only
  cases (write text running.host).1 <;> rfl

theorem run_insist (write : Writer σ) (text : String) (running : Running σ) :
    (insist write text).run running =
      ((write text running.host).1.mapError fun _ => .broken,
        { running with host := (write text running.host).2 }) := by
  rw [insist, run_bind, run_attempt]
  dsimp only
  cases (write text running.host).1 <;> rfl

theorem run_flush (h : Host σ) (running : Running σ) :
    (flush h).run running =
      ((h.flush running.host).1.mapError fun e => .failed (.io e),
        { running with host := (h.flush running.host).2 }) := by
  rw [flush, run_bind, run_attempt]
  dsimp only
  cases (h.flush running.host).1 <;> rfl

theorem caught_ne_failed (out : Except Halt α) (e : ShellError) :
    caught out ≠ .error (.failed e) := by
  rcases out with (e | code | _) | a <;> simp [caught]

theorem eq_failed_of_caught {out : Except Halt α} {e : ShellError}
    (failure : caught out = .ok (.error e)) : out = .error (.failed e) := by
  cases out with
  | ok a => simp [caught] at failure
  | error halt =>
      cases halt with
      | failed e' => simpa [caught] using failure
      | exited code | broken => simp [caught] at failure

theorem run_result (act : ShellM σ α) (running : Running σ) :
    (result act).run running = (caught (act.run running).1, (act.run running).2) := rfl

theorem run_environment (running : Running σ) :
    (environment : ShellM σ Environment).run running =
      (.ok running.shell.environment, running) := rfl

theorem run_homeDir (h : Host σ) (running : Running σ) :
    (homeDir h).run running =
      (.ok (h.homeDir running.shell.environment running.host), running) := rfl

theorem run_changeEnvironment (change : Environment → Environment) (running : Running σ) :
    (changeEnvironment change).run running = (.ok (), { running with
      shell := { running.shell with environment := change running.shell.environment } }) := rfl

end ShellM

section
variable {S : τ → τ → Prop} [IsPreorder τ S]

/-- If the second part is not come to, the change by the first must be one of the whole. -/
theorem Acts.bind {P Q R : Shell → Shell → Prop}
    (trans : ∀ a b c, P a b → Q b c → R a c) (stop : ∀ a b, P a b → R a b)
    {m : ShellM σ α} {m' : ShellM (σ × τ) α} {f : α → ShellM σ β}
    {f' : α → ShellM (σ × τ) β} (hm : Acts P S m m')
    (hf : ∀ a, (∃ running, (m.run running).1 = .ok a) → Acts Q S (f a) (f' a)) :
    Acts R S (m >>= f) (m' >>= f') := by
  refine ⟨fun running t => ?_, fun running => ?_, fun running e => ?_⟩
  · obtain ⟨t', first, same⟩ := hm.same running t
    have next a (given : (m.run running).1 = .ok a) := (hf a ⟨running, given⟩).same
    rw [ShellM.run_bind, ShellM.run_bind, same]
    generalize m.run running = out at next ⊢
    obtain ⟨_ | a, after⟩ := out
    · exact ⟨t', first, rfl⟩
    · obtain ⟨t'', second, same⟩ := next a rfl after t'
      exact ⟨t'', trans_of S first second, same⟩
  · have first := hm.shell running
    have next a (given : (m.run running).1 = .ok a) := (hf a ⟨running, given⟩).shell
    rw [ShellM.run_bind]
    generalize m.run running = out at first next ⊢
    obtain ⟨_ | a, after⟩ := out
    · exact stop _ _ first
    · exact trans _ _ _ first (next a rfl after)
  · have first := hm.failure running e
    have next a (given : (m.run running).1 = .ok a) := (hf a ⟨running, given⟩).failure
    rw [ShellM.run_bind]
    generalize m.run running = out at first next ⊢
    obtain ⟨halt | a, after⟩ := out
    · intro failed
      cases failed
      exact first rfl
    · exact next a rfl after e

omit [IsPreorder τ S] in
theorem Acts.mono {P R : Shell → Shell → Prop} (weaker : ∀ a b, P a b → R a b) {m : ShellM σ α}
    {m' : ShellM (σ × τ) α} (hm : Acts P S m m') : Acts R S m m' :=
  ⟨hm.same, fun running => weaker _ _ (hm.shell running), hm.failure⟩

namespace Quiet

theorem pure (a : α) : Quiet (σ := σ) S (Pure.pure a) (Pure.pure a) := by
  refine ⟨fun _ t => ⟨t, refl_of S t, rfl⟩, fun running => .refl running.shell,
    fun running e failed => ?_⟩
  rw [ShellM.run_pure] at failed
  contradiction

theorem stop {halt : Halt} (leaves : ∀ e, halt = .failed e → ∃ code, e.Leaves code) :
    Quiet (σ := σ) (α := α) S (throw halt) (throw halt) := by
  refine ⟨fun _ t => ⟨t, refl_of S t, rfl⟩, fun running => .refl running.shell,
    fun running e failed => ?_⟩
  rw [ShellM.run_throw] at failed
  exact leaves e (Except.error.inj failed)

theorem fail {e : ShellError} {code : Nat} (h : e.Leaves code) :
    Quiet (σ := σ) (α := α) S (ShellM.fail e) (ShellM.fail e) := by
  refine stop fun e' same => ?_
  cases same
  exact ⟨code, h⟩

/-- What the builtins say no with. -/
theorem refuse (message : String) :
    Quiet (σ := σ) (α := α) S (ShellM.fail (.builtinFailed message 1))
      (ShellM.fail (.builtinFailed message 1)) :=
  fail (.builtinFailed message (show 0 < 1 by decide) (by decide))

theorem exit (code : Nat) :
    Quiet (σ := σ) (α := α) S (throw (.exited code)) (throw (.exited code)) :=
  stop nofun

theorem bind {m : ShellM σ α} {m' : ShellM (σ × τ) α} {f : α → ShellM σ β}
    {f' : α → ShellM (σ × τ) β} (hm : Quiet S m m')
    (hf : ∀ a, Quiet S (f a) (f' a)) : Quiet S (m >>= f) (m' >>= f') :=
  Acts.bind (P := Shell.SameBooks) (Q := Shell.SameBooks)
    (fun _ _ _ hab hbc => hab.trans hbc) (fun _ _ hab => hab) hm fun a _ => hf a

omit [IsPreorder τ S] in
theorem ite {c : Prop} [Decidable c] {a b : ShellM σ α} {a' b' : ShellM (σ × τ) α}
    (ha : Quiet S a a') (hb : Quiet S b b') :
    Quiet S (if c then a else b) (if c then a' else b') := by
  split
  · exact ha
  · exact hb

theorem onlyIf {c : Prop} [Decidable c] {m : ShellM σ Unit} {m' : ShellM (σ × τ) Unit}
    {f : Unit → ShellM σ α} {f' : Unit → ShellM (σ × τ) α} (hm : Quiet S m m')
    (hf : ∀ a, Quiet S (f a) (f' a)) :
    Quiet S (if c then m >>= f else f ()) (if c then m' >>= f' else f' ()) :=
  ite (bind hm hf) (hf ())

omit [IsPreorder τ S] in
/-- What an action does may hang on the running shell, if it is quiet for each. -/
theorem read {f : Running σ → ShellM σ α}
    {f' : Running (σ × τ) → ShellM (σ × τ) α} [Inhabited τ]
    (hf : ∀ running t, Quiet S (f running) (f' (running.beside t))) :
    Quiet S (get >>= f) (get >>= f') :=
  ⟨fun running t => (hf running t).same running t,
    fun running => (hf running default).shell running,
    fun running e => (hf running default).failure running e⟩

theorem query {ask : σ → Except IoError α} {ask' : σ × τ → Except IoError α}
    (alike : ∀ s t, ask' (s, t) = ask s) : Quiet S (ShellM.query ask) (ShellM.query ask') := by
  refine ⟨fun running t => ⟨t, refl_of S t, ?_⟩, fun running => ?_, fun running e => ?_⟩
  · rw [ShellM.run_query, ShellM.run_query]
    simp only [Running.beside, alike]
  · rw [ShellM.run_query]
    exact .refl running.shell
  · rw [ShellM.run_query]
    cases ask running.host with
    | ok a => nofun
    | error cause =>
        intro failed
        cases failed
        exact ⟨1, .io cause⟩

omit [IsPreorder τ S] in
theorem attempt {act : σ → α × σ} {act' : σ × τ → α × (σ × τ)}
    (alike : ∀ s t, Alongside S t (act s) (act' (s, t))) :
    Quiet S (ShellM.attempt act) (ShellM.attempt act') := by
  refine ⟨fun running t => ?_, fun running => .refl running.shell, fun running e failed => ?_⟩
  · obtain ⟨t', changed, answer⟩ := alike running.host t
    refine ⟨t', changed, ?_⟩
    rw [ShellM.run_attempt, ShellM.run_attempt]
    simp only [Running.beside, answer]
  · rw [ShellM.run_attempt] at failed
    contradiction

theorem emit {write : Writer σ} {write' : Writer (σ × τ)} (alike : write.Shadows S write')
    (text : String) : Quiet S (ShellM.emit write text) (ShellM.emit write' text) := by
  refine bind (attempt (alike text)) fun result => ?_
  cases result with
  | ok a => exact pure a
  | error e => exact fail (.io e)

theorem insist {write : Writer σ} {write' : Writer (σ × τ)} (alike : write.Shadows S write')
    (text : String) : Quiet S (ShellM.insist write text) (ShellM.insist write' text) := by
  refine bind (attempt (alike text)) fun result => ?_
  cases result with
  | ok a => exact pure a
  | error e => exact stop nofun

theorem flush {h : Host σ} {h' : Host (σ × τ)} (shadows : h.Shadows S h') :
    Quiet S (ShellM.flush h) (ShellM.flush h') := by
  refine bind (attempt shadows.flush) fun result => ?_
  cases result with
  | ok a => exact pure a
  | error e => exact fail (.io e)

omit [IsPreorder τ S] in
theorem result {m : ShellM σ α} {m' : ShellM (σ × τ) α} (hm : Quiet S m m') :
    Quiet S (ShellM.result m) (ShellM.result m') := by
  refine ⟨fun running t => ?_, hm.shell, fun running e failed => ?_⟩
  · obtain ⟨t', changed, same⟩ := hm.same running t
    refine ⟨t', changed, ?_⟩
    rw [ShellM.run_result, ShellM.run_result, same]
  · rw [ShellM.run_result] at failed
    exact absurd failed (ShellM.caught_ne_failed _ e)

/-- A failure that is put off until the output is flushed is still one of the action. -/
theorem flushed {h : Host σ} {h' : Host (σ × τ)} (shadows : h.Shadows S h') {m : ShellM σ α}
    {m' : ShellM (σ × τ) α} (hm : Quiet S m m') :
    Quiet S (ShellM.flushed h m) (ShellM.flushed h' m') := by
  refine Acts.bind (P := Shell.SameBooks) (Q := Shell.SameBooks)
    (fun _ _ _ hab hbc => hab.trans hbc) (fun _ _ hab => hab) hm.result fun went came => ?_
  refine bind (flush shadows) fun _ => ?_
  cases went with
  | ok a => exact pure a
  | error e =>
      obtain ⟨running, caught⟩ := came
      obtain ⟨code, leaves⟩ := hm.failure running e (ShellM.eq_failed_of_caught caught)
      exact fail leaves

theorem environment [Inhabited τ] :
    Quiet (σ := σ) S ShellM.environment ShellM.environment :=
  read fun running _ => pure running.shell.environment

theorem homeDir {h : Host σ} {h' : Host (σ × τ)} (shadows : h.Shadows S h') :
    Quiet S (ShellM.homeDir h) (ShellM.homeDir h') := by
  refine ⟨fun running t => ⟨t, refl_of S t, ?_⟩, fun running => .refl running.shell,
    fun running e failed => ?_⟩
  · rw [ShellM.run_homeDir, ShellM.run_homeDir]
    simp only [Running.beside, shadows.homeDir]
  · rw [ShellM.run_homeDir] at failed
    contradiction

theorem changeEnvironment (change : Environment → Environment) :
    Quiet (σ := σ) S (ShellM.changeEnvironment change) (ShellM.changeEnvironment change) := by
  refine ⟨fun _ t => ⟨t, refl_of S t, rfl⟩, fun _ => ⟨rfl, rfl, rfl, rfl⟩,
    fun running e failed => ?_⟩
  rw [ShellM.run_changeEnvironment] at failed
  contradiction

theorem forM {items : List α} {f : α → ShellM σ Unit} {f' : α → ShellM (σ × τ) Unit}
    (hf : ∀ a, Quiet S (f a) (f' a)) : Quiet S (items.forM f) (items.forM f') := by
  induction items with
  | nil => exact pure ()
  | cons item rest ih => exact bind (hf item) fun _ => ih

end Quiet
end
end LineShell

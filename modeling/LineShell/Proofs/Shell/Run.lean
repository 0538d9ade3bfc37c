import LineShell.CommandLine
import LineShell.Proofs.Shell.Frame

/-!
Codes over whole runs. Each line leaves the code of its outcome, blank lines leave everything as it
was, and so a run that no line has ended leaves the code of its last line that is not blank.
-/
namespace LineShell
variable {σ : Type}

/-- What a line that is not blank leaves behind, `out` being how it went and the state after it. -/
structure LeftBy (h : Host σ) (text : String) (running : Running σ)
    (out : Except Halt Unit × Running σ) : Prop where
  /-- All calls of the probe are those of one sweep over the jobs, a new one among them. -/
  swept : ∃ started calls, started.length ≤ 1 ∧
    execute h.recorded text (running.beside []) = (out.1, out.2.beside calls) ∧
    calls.map ProbeCall.pid = (running.shell.jobs.jobs ++ started).map Job.pid ∧
    out.2.shell.jobs.jobs = JobTable.survivors (running.shell.jobs.jobs ++ started) calls
  outcome : Outcome out.1 out.2.shell.lastStatus.shellCode
  ok_iff : out.1 = .ok () ↔ out.2.shell.lastStatus.isSuccess = true
  faithful : out.2.shell.lastStatus.Faithful
  unread : ∀ e, Command.parse (expandVariables running.shell.environment.get? (effective text)) =
    .error e → out.1 = .error (.failed (.line e))

theorem reap_recorded (h : Host σ) (running : Running σ) :
    (running.beside []).reap h.recorded = (running.reap h).beside
      (running.shell.jobs.reapCalls h.probe (h.write Handle.output) running.host) := by
  have swept : running.shell.jobs.reap h.recorded.probe (h.recorded.write Handle.output)
      (running.beside []).host = _ :=
    running.shell.jobs.reap_recorded h.probe (h.write Handle.output) running.host
  unfold Running.reap
  rw [show (running.beside ([] : List ProbeCall)).shell = running.shell from rfl, swept]
  rfl

theorem leftBy_execute {h : Host σ} (ends : h.AwaitsEnds) {text : String}
    (nonblank : effective text ≠ "") (running : Running σ)
    (stays : Stays (execute h text running).1) :
    LeftBy h text running (execute h text running) := by
  obtain ⟨departs, -⟩ | ⟨next, status, grown, faithful, outcome, left, recorded⟩ :=
    execute_cases ends nonblank running
  · exact absurd stays departs
  obtain ⟨started, few, jobs⟩ := grown.jobs
  have code : (execute h text running).2.shell.lastStatus = status := by rw [left]; rfl
  refine ⟨⟨started, next.shell.jobs.reapCalls h.probe (h.write Handle.output) next.host, few,
    ?_, ?_, ?_⟩, ?_, ?_, ?_, ?_⟩
  · rw [recorded, left]
    exact congrArg _ (reap_recorded h (next.settle status))
  · rw [JobTable.reapCalls_pids, jobs]
    rfl
  · have swept := next.shell.jobs.reap_table h.probe (h.write Handle.output) next.host
    rw [left]
    exact (congrArg JobTable.jobs swept).trans (by rw [jobs]; rfl)
  · rwa [code]
  · rw [code, outcome.ok_iff, faithful.success]
  · rwa [code]
  · intro e unread
    have failed : (running.remember (effective text)).parse h (effective text) = .error e := by
      rw [Running.parse]
      exact congrArg _ unread
    rw [execute_nonblank h nonblank, run_runLine, failed]

/-- What lines leave alone, if the last status told how the line before them went. -/
structure Shell.Sound (before after : Shell) : Prop where
  mode : after.mode = before.mode
  faithful : before.lastStatus.Faithful → after.lastStatus.Faithful

theorem sound_execute {h : Host σ} (ends : h.AwaitsEnds) (text : String) (running : Running σ) :
    running.shell.Sound (execute h text running).2.shell := by
  by_cases blank : effective text = ""
  · rw [execute_blank h blank]
    exact ⟨rfl, id⟩
  obtain ⟨-, grown⟩ | ⟨next, status, grown, settled, -, left, -⟩ :=
    execute_cases ends blank running
  · refine ⟨grown.mode, fun faithful => ?_⟩
    rwa [grown.lastStatus]
  · rw [left]
    exact ⟨grown.mode, fun _ => settled⟩

theorem executeAll_append (h : Host σ) (front back : List String) (running : Running σ) :
    executeAll h (front ++ back) running =
      match executeAll h front running with
      | (.ok _, mid) => executeAll h back mid
      | (.error halt, mid) => (.error halt, mid) := by
  induction front generalizing running with
  | nil => rfl
  | cons line rest ih =>
      rw [List.cons_append, executeAll, executeAll]
      rcases execute h line running with ⟨(e | code | _) | _, next⟩
      · dsimp only
        rcases (report h e).run next with ⟨halt | _, told⟩
        · rfl
        · exact ih told
      · rfl
      · rfl
      · exact ih next

theorem executeAll_blank (h : Host σ) {lines : List String}
    (blank : ∀ line ∈ lines, effective line = "") (running : Running σ) :
    executeAll h lines running = (.ok (), running) := by
  induction lines with
  | nil => rfl
  | cons line rest ih =>
      rw [List.forall_mem_cons] at blank
      rw [executeAll, execute_blank h blank.1]
      exact ih blank.2

theorem sound_executeAll {h : Host σ} (ends : h.AwaitsEnds) (lines : List String)
    (running : Running σ) : running.shell.Sound (executeAll h lines running).2.shell := by
  induction lines generalizing running with
  | nil => exact ⟨rfl, id⟩
  | cons line rest ih =>
      have first := sound_execute ends line running
      have later (next : Running σ) (sound : running.shell.Sound next.shell) :
          running.shell.Sound (executeAll h rest next).2.shell :=
        ⟨(ih next).mode.trans sound.mode, (ih next).faithful ∘ sound.faithful⟩
      rw [executeAll]
      generalize execute h line running = out at first ⊢
      obtain ⟨(e | code | _) | _, next⟩ := out
      · obtain ⟨host, told | broken⟩ := report_cases h e next
        · simp only [told]
          exact later { next with host } first
        · simp only [broken]
          exact first
      · exact first
      · exact first
      · exact later next first

/-- The failures of lines are not failures of the lines together. -/
theorem executeAll_stays {h : Host σ} {lines : List String} {running : Running σ}
    (stays : Stays (executeAll h lines running).1) : (executeAll h lines running).1 = .ok () := by
  induction lines generalizing running with
  | nil => rfl
  | cons line rest ih =>
      rw [executeAll] at stays ⊢
      generalize execute h line running = out at stays ⊢
      obtain ⟨(e | code | _) | _, next⟩ := out
      · obtain ⟨host, told | broken⟩ := report_cases h e next
        · simp only [told] at stays ⊢
          exact ih stays
        · simp only [broken] at stays
          nomatch stays
      · nomatch stays
      · nomatch stays
      · exact ih stays

theorem blank_or_last (lines : List String) :
    (∀ line ∈ lines, effective line = "") ∨
    ∃ front line back, lines = front ++ line :: back ∧ effective line ≠ "" ∧
      ∀ other ∈ back, effective other = "" := by
  induction lines with
  | nil => exact .inl nofun
  | cons first rest ih =>
      rcases ih with blank | ⟨front, line, back, rfl, nonblank, blank⟩
      · by_cases here : effective first = ""
        · exact .inl (List.forall_mem_cons.mpr ⟨here, blank⟩)
        · exact .inr ⟨[], first, rest, rfl, here, blank⟩
      · exact .inr ⟨first :: front, line, back, rfl, nonblank, blank⟩

/-- The code of the last line that is not blank, zero if there is none. -/
def LastCode (h : Host σ) (lines : List String) (running : Running σ) (code : Nat) : Prop :=
  ((∀ line ∈ lines, effective line = "") ∧ code = 0) ∨
  ∃ front line back mid, lines = front ++ line :: back ∧ effective line ≠ "" ∧
    (∀ other ∈ back, effective other = "") ∧ executeAll h front running = (.ok (), mid) ∧
    Outcome (execute h line mid).1 code

theorem executeAll_last {h : Host σ} {line : String} {back : List String} {mid last : Running σ}
    (blank : ∀ other ∈ back, effective other = "")
    (done : executeAll h (line :: back) mid = (.ok (), last)) :
    Stays (execute h line mid).1 ∧
      last.shell.lastStatus = (execute h line mid).2.shell.lastStatus := by
  rw [executeAll] at done
  generalize execute h line mid = out at done ⊢
  obtain ⟨(e | code | _) | _, next⟩ := out
  · obtain ⟨host, told | broken⟩ := report_cases h e next
    · simp only [told, executeAll_blank h blank] at done
      cases done
      exact ⟨.failed e, rfl⟩
    · simp only [broken] at done
      cases done
  · cases done
  · cases done
  · simp only [executeAll_blank h blank] at done
    cases done
    exact ⟨.ok (), rfl⟩

theorem lastCode_of_executeAll {h : Host σ} (ends : h.AwaitsEnds) {lines : List String}
    {running last : Running σ} (fresh : running.shell.lastStatus = .success)
    (done : executeAll h lines running = (.ok (), last)) :
    LastCode h lines running last.shell.lastStatus.shellCode := by
  obtain blank | ⟨front, line, back, rfl, nonblank, blank⟩ := blank_or_last lines
  · rw [executeAll_blank h blank] at done
    cases done
    rw [fresh, WaitStatus.shellCode_success]
    exact .inl ⟨blank, rfl⟩
  rw [executeAll_append] at done
  rcases ran : executeAll h front running with ⟨halt | _, mid⟩ <;> rw [ran] at done <;>
    dsimp only at done
  · cases done
  · obtain ⟨stays, left⟩ := executeAll_last blank done
    have outcome := (leftBy_execute ends nonblank mid stays).outcome
    rw [← left] at outcome
    exact .inr ⟨front, line, back, mid, rfl, nonblank, blank, ran, outcome⟩

namespace CommandLine

def batch (env : Environment) (s : σ) : Running σ where
  shell := { mode := .batch, environment := env, history := { capacity := 0 } }
  host := s

theorem leave_batch (h : Host σ) (status : Option WaitStatus) {running : Running σ}
    (batch : running.shell.mode = .batch) :
    (leave h status running).1 =
      .code ((status.getD running.shell.lastStatus).shellCode % 256) := by
  have silent : ShellM.goodbye h running.shell running.host = (.ok (), running.host) := by
    rw [ShellM.goodbye, batch]
    rfl
  rw [leave, ShellM.run_quit, silent]

/-- How the process ends after what a shell was asked to run: with its code, unless there is a
failure that the user cannot be told of. -/
inductive Concludes (h : Host σ) (out : Except Halt Unit × Running σ) (code : Nat) : Ending → Prop
  | told : (∀ e, out.1 = .error (.failed e) → (tell h e out.2.host).1 = .ok ()) →
      Concludes h out code (.code code)
  | untold {e : ShellError} {cause : IoError} : out.1 = .error (.failed e) →
      (tell h e out.2.host).1 = .error cause → Concludes h out code .fault

theorem conclude_ok (h : Host σ) {running : Running σ} (batch : running.shell.mode = .batch)
    (faithful : running.shell.lastStatus.Faithful) :
    (conclude h (.ok (), running)).1 = .code running.shell.lastStatus.shellCode := by
  rw [conclude, leave_batch h none batch, Option.getD_none,
    Nat.mod_eq_of_lt (Nat.lt_succ_of_le faithful.le)]

theorem conclude_failed (h : Host σ) (e : ShellError) {running : Running σ}
    (batch : running.shell.mode = .batch) (faithful : running.shell.lastStatus.Faithful)
    (failure : running.shell.lastStatus.isSuccess = false) :
    Concludes h (.error (.failed e), running) running.shell.lastStatus.shellCode
      (conclude h (.error (.failed e), running)).1 := by
  rw [conclude, run_report]
  rcases said : h.write Handle.errors (e.report ++ "\n") running.host with ⟨cause | _, host⟩
  · exact .untold rfl (congrArg Prod.fst said)
  · have left : (leave h none { running with host }).1 =
        .code (running.shell.lastStatus.shellCode % 256) := leave_batch h none batch
    dsimp only [Except.mapError]
    rw [failure, if_neg nofun, left, Nat.mod_eq_of_lt (Nat.lt_succ_of_le faithful.le)]
    refine .told fun e' same => ?_
    cases same
    exact congrArg Prod.fst said

theorem withShell_batch (h : Host σ) (env : Environment) (act : Running σ → Ending × σ) (s : σ) :
    withShell h .batch env act s = act (batch env s) := rfl

theorem run_command (h : Host σ) {turns : Nat} {args : List String} {env : Environment}
    {line : String} {logPath : Option String} {s start : σ}
    (asked : Request.ofArgs args = .ok { purpose := .command line, logPath })
    (logged : openLog h env logPath s = (.ok (), start)) :
    run h turns args env s = conclude h (execute h line (batch env start)) := by
  rw [run, asked]
  dsimp only
  rw [if_neg nofun, logged, afterSaying, fulfil, withShell_batch]

theorem run_script (h : Host σ) {turns : Nat} {args : List String} {env : Environment}
    {path : String} {logPath : Option String} {bytes : Bytes} {text : String} {s start next : σ}
    (asked : Request.ofArgs args = .ok { purpose := .script path, logPath })
    (logged : openLog h env logPath s = (.ok (), start))
    (readable : h.readFile path start = (.ok bytes, next)) (valid : bytes.text? = some text) :
    run h turns args env s = conclude h (executeAll h (Text.lines text) (batch env next)) := by
  have file : executeFile h path (batch env start) =
      executeAll h (Text.lines text) (batch env next) := by
    unfold executeFile
    simp only [batch, readable, valid]
  rw [run, asked]
  dsimp only
  rw [if_neg nofun, logged, afterSaying, fulfil, withShell_batch, file]

theorem command_code {h : Host σ} (ends : h.AwaitsEnds) {line : String} {start : Running σ}
    (batch : start.shell.mode = .batch) (fresh : start.shell.lastStatus = .success)
    (stays : Stays (execute h line start).1) :
    ∃ code, LastCode h [line] start code ∧
      Concludes h (execute h line start) code (conclude h (execute h line start)).1 := by
  by_cases blank : effective line = ""
  · have faithful : start.shell.lastStatus.Faithful := fresh ▸ WaitStatus.faithful_success
    rw [execute_blank h blank, conclude_ok h batch faithful, fresh, WaitStatus.shellCode_success]
    exact ⟨0, .inl ⟨by simpa using blank, rfl⟩, .told nofun⟩
  · have left := leftBy_execute ends blank start stays
    have sound := sound_execute ends line start
    refine ⟨_, .inr ⟨[], line, [], start, rfl, blank, nofun, rfl, left.outcome⟩, ?_⟩
    generalize execute h line start = out at left sound stays ⊢
    obtain ⟨result, last⟩ := out
    have still : last.shell.mode = .batch := sound.mode.trans batch
    cases stays with
    | ok =>
        rw [conclude_ok h still left.faithful]
        exact .told nofun
    | failed e =>
        have failure : last.shell.lastStatus.isSuccess = false := by
          rw [← Bool.not_eq_true, ← left.ok_iff]
          exact nofun
        exact conclude_failed h e still left.faithful failure

theorem script_code {h : Host σ} (ends : h.AwaitsEnds) {lines : List String} {start : Running σ}
    (batch : start.shell.mode = .batch) (fresh : start.shell.lastStatus = .success)
    (stays : Stays (executeAll h lines start).1) :
    ∃ code, LastCode h lines start code ∧
      (conclude h (executeAll h lines start)).1 = .code code := by
  have sound := sound_executeAll ends lines start
  have done := executeAll_stays stays
  generalize ran : executeAll h lines start = out at sound done ⊢
  obtain ⟨result, last⟩ := out
  obtain rfl : result = .ok () := done
  refine ⟨_, lastCode_of_executeAll ends fresh ran, conclude_ok h (sound.mode.trans batch) ?_⟩
  exact sound.faithful (fresh ▸ WaitStatus.faithful_success)

/-- Codes keep the books of outcomes. Blank lines do nothing. After each other line that does not
end the shell, and only one that runs the builtin for this may end it, there is one sweep, and the
last status says by its code how the line went; it is success just for a line that went well. So a
script that can be read and is not ended by a line ends with the code of its last line that is not
blank. So does a single command, unless it fails and the user cannot be told. -/
theorem lines_leave_codes (h : Host σ) (ends : h.AwaitsEnds) :
    (∀ text running calls, effective text = "" → execute h text running = (.ok (), running) ∧
      execute h.recorded text (running.beside calls) = (.ok (), running.beside calls)) ∧
    (∀ text running, ¬RunsExit h (effective text) running →
      Stays (execute h text running).1) ∧
    (∀ text running, effective text ≠ "" → Stays (execute h text running).1 →
      LeftBy h text running (execute h text running)) ∧
    (∀ lines running, running.shell.lastStatus.Faithful →
      (executeAll h lines running).2.shell.lastStatus.Faithful) ∧
    (∀ turns args env s line logPath start,
      Request.ofArgs args = .ok { purpose := .command line, logPath } →
      openLog h env logPath s = (.ok (), start) →
      Stays (execute h line (batch env start)).1 →
      ∃ code, LastCode h [line] (batch env start) code ∧
        Concludes h (execute h line (batch env start)) code (run h turns args env s).1) ∧
    (∀ turns args env s path logPath start bytes text next,
      Request.ofArgs args = .ok { purpose := .script path, logPath } →
      openLog h env logPath s = (.ok (), start) →
      h.readFile path start = (.ok bytes, next) → bytes.text? = some text →
      Stays (executeAll h (Text.lines text) (batch env next)).1 →
      ∃ code, LastCode h (Text.lines text) (batch env next) code ∧
        (run h turns args env s).1 = .code code) := by
  refine ⟨fun text running calls blank => ?_, fun text running => execute_stays,
    fun text running nonblank => leftBy_execute ends nonblank running,
    fun lines running => (sound_executeAll ends lines running).faithful, ?_, ?_⟩
  · exact ⟨execute_blank h blank running, execute_blank h.recorded blank _⟩
  · intro turns args env s line logPath start asked logged stays
    rw [run_command h asked logged]
    exact command_code ends rfl rfl stays
  · intro turns args env s path logPath start bytes text next asked logged readable valid stays
    rw [run_script h asked logged readable valid]
    exact script_code ends rfl rfl stays

/-- A system in which every program exits with the same code, every file holds the same text and
every process goes on. -/
def uniform (code : Nat) (text : String) : Host Unit where
  homeDir env _ := env.get? "HOME"
  currentDir _ := .ok "/"
  enterDir _ _ := .ok ()
  readFile _ s := (.ok (Bytes.ofString text), s)
  replaceFile _ _ s := (.ok (), s)
  isExecutable _ _ := true
  openInput _ s := (.ok 3, s)
  openOutput _ _ s := (.ok 3, s)
  write _ _ s := (.ok (), s)
  flush s := (.ok (), s)
  readLine _ _ s := (.ok none, s)
  start _ s := (.ok 7, s)
  run _ s := (.ok (.ofCode (Int32.ofNat code)), s)
  probe _ s := (.ok .alive, s)
  shield s := s

theorem uniform_awaitsEnds {code : Nat} (small : code < 256) (text : String) :
    (uniform code text).AwaitsEnds := by
  intro program s status next ran
  cases ran
  exact ⟨code, .exited small⟩

def shortScript : String := "pwd\np x # fails\n\n#\n"

def searching : Environment := { entries := [("PATH", "/bin")] }

/-- The program fails, so the script ends with its code. -/
theorem lines_leave_codes_failing :
    (uniform 3 shortScript).AwaitsEnds ∧
    LeftBy (uniform 3 shortScript) "p x # fails" (batch searching ())
      (execute (uniform 3 shortScript) "p x # fails" (batch searching ())) ∧
    LastCode (uniform 3 shortScript) ["pwd", "p x # fails", "", "#"] (batch searching ()) 3 ∧
    (run (uniform 3 shortScript) 0 ["script"] searching ()).1 = .code 3 := by
  have ends := uniform_awaitsEnds (show 3 < 256 by decide) shortScript
  obtain ⟨-, -, line, -, -, script⟩ := lines_leave_codes (uniform 3 shortScript) ends
  have failed : (execute (uniform 3 shortScript) "p x # fails" (batch searching ())).1 =
      .error (.failed (.programFailed "p" (.ofCode 3))) := by decide +kernel
  have stays : (executeAll (uniform 3 shortScript) (Text.lines shortScript)
      (batch searching ())).1 = .ok () := by decide +kernel
  have lines : Text.lines shortScript = ["pwd", "p x # fails", "", "#"] := by decide +kernel
  have ending : (run (uniform 3 shortScript) 0 ["script"] searching ()).1 = .code 3 := by
    decide +kernel
  refine ⟨ends, ?_, ?_, ending⟩
  · exact line _ _ (by decide +kernel) (by rw [failed]; exact .failed _)
  · obtain ⟨code, last, same⟩ := script 0 ["script"] searching () "script" none () _ shortScript ()
      (by decide +kernel) rfl rfl (by decide +kernel) (by rw [stays]; exact .ok ())
    rw [ending] at same
    cases same
    rwa [lines] at last

end CommandLine
end LineShell

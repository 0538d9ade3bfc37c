import LineShell.Launch
import LineShell.Proofs.Job.Sweep

/-!
A system that writes down what happens to jobs on it: the starts of processes, the questions about
them, and what is written. Writing this down changes nothing else. A launch
into the background starts one process or none, and tells of it if it started; a sweep tells of a
job right after it has found it ended.
-/
namespace LineShell
variable {σ τ α : Type}

theorem openTarget_beside (openFile : String → σ → Except IoError Handle × σ)
    (openFile' : String → σ × τ → Except IoError Handle × (σ × τ))
    (alike : ∀ path s t, openFile' path (s, t) = ((openFile path s).1, (openFile path s).2, t))
    (stream : Stream) (path : Option String) (s : σ) (t : τ) :
    openTarget openFile' stream path (s, t) =
      ((openTarget openFile stream path s).1, (openTarget openFile stream path s).2, t) := by
  cases path with
  | none => rfl
  | some path =>
      simp only [openTarget, alike]
      rcases openFile path s with ⟨_ | handle, next⟩ <;> rfl

/-- Opening files leaves alone what is kept beside a system. -/
theorem openStreams_beside (h : Host σ) (h' : Host (σ × τ))
    (inputs : h'.openInput = (h.beside τ).openInput)
    (outputs : h'.openOutput = (h.beside τ).openOutput) (command : Command) (s : σ) (t : τ) :
    openStreams h' command (s, t) =
      ((openStreams h command s).1, (openStreams h command s).2, t) := by
  have input := openTarget_beside h.openInput h'.openInput fun _ _ _ => by rw [inputs]; rfl
  have output append := openTarget_beside (h.openOutput append) (h'.openOutput append)
    fun _ _ _ => by rw [outputs]; rfl
  unfold openStreams
  rw [input]
  rcases openTarget h.openInput .input command.inputFile s with ⟨_ | _, s⟩
  · rfl
  simp only [output]
  rcases openTarget (h.openOutput command.append) .output command.outputFile s with ⟨_ | _, s⟩
  · rfl
  dsimp only
  rcases openTarget (h.openOutput false) .error command.errorFile s with ⟨_ | _, s⟩ <;> rfl

inductive Deed where
  | started (answer : Except IoError ProcessId)
  | probed (call : ProbeCall)
  | wrote (text : String)

namespace Deed

def pid? : Deed → Option ProcessId
  | .started (.ok pid) => some pid
  | _ => none

def call? : Deed → Option ProbeCall
  | .probed call => some call
  | _ => none

def text? : Deed → Option String
  | .wrote text => some text
  | _ => none

end Deed

def Deed.after (log : List Deed) (out : α × σ) : α × (σ × List Deed) :=
  (out.1, out.2, log)

/-- A system with its deeds beside it, the latest at the end. -/
def Host.traced (h : Host σ) : Host (σ × List Deed) :=
  { h.beside (List Deed) with
    start := fun program s =>
      let answered := h.start program s.1
      Deed.after (s.2 ++ [.started answered.1]) answered
    probe := fun pid s =>
      let answered := h.probe pid s.1
      Deed.after (s.2 ++ [.probed ⟨pid, answered.1⟩]) answered }

def Writer.traced (write : Writer σ) : Writer (σ × List Deed) := fun text s =>
  Deed.after (s.2 ++ [.wrote text]) (write text s.1)

theorem traced_start (h : Host σ) (program : Program) (s : σ) (log : List Deed) :
    h.traced.start program (s, log) =
      Deed.after (log ++ [.started (h.start program s).1]) (h.start program s) := rfl

theorem traced_probe (h : Host σ) (pid : ProcessId) (s : σ) (log : List Deed) :
    h.traced.probe pid (s, log) =
      Deed.after (log ++ [.probed ⟨pid, (h.probe pid s).1⟩]) (h.probe pid s) := rfl

theorem traced_write (write : Writer σ) (text : String) (s : σ) (log : List Deed) :
    write.traced text (s, log) = Deed.after (log ++ [.wrote text]) (write text s) := rfl

inductive LaunchDeeds (jobs : JobTable) (command : String) : List Deed → JobTable → Prop where
  | unfit : LaunchDeeds jobs command [] jobs
  | failed (e : IoError) : LaunchDeeds jobs command [.started (.error e)] jobs
  | started (pid : ProcessId) :
      LaunchDeeds jobs command
        [.started (.ok pid), .wrote ((jobs.register pid command).1.announcement ++ "\n")]
        (jobs.register pid command).2

theorem launch_traced (h : Host σ) (env : Environment) (shielded : Bool) (write : Writer σ)
    {command : Command} (behind : command.background = true) (jobs : JobTable) (s : σ) :
    ∃ deeds, launch h.traced env shielded write.traced command jobs (s, []) =
        ((launch h env shielded write command jobs s).1,
          (launch h env shielded write command jobs s).2.1,
          (launch h env shielded write command jobs s).2.2, deeds) ∧
      LaunchDeeds jobs command.argv deeds (launch h env shielded write command jobs s).2.1 := by
  unfold launch
  rw [show resolve h.traced env command.program (s, []) = resolve h env command.program s from rfl,
    openStreams_beside h h.traced rfl rfl]
  cases resolve h env command.program s with
  | none => exact ⟨[], rfl, .unfit⟩
  | some path =>
      dsimp only
      generalize openStreams h command s = out
      obtain ⟨_ | streams, s₁⟩ := out
      · exact ⟨[], rfl, .unfit⟩
      simp only [Deed.after, behind, if_true, traced_start]
      generalize Program.mk path command.program _ env streams _ = program
      generalize h.start program s₁ = out
      obtain ⟨e | pid, s₂⟩ := out
      · exact ⟨_, rfl, .failed e⟩
      simp only [traced_write, Deed.after]
      generalize write ((jobs.register pid command.argv).1.announcement ++ "\n") s₂ = out
      obtain ⟨_ | _, s₃⟩ := out <;> exact ⟨_, rfl, .started pid⟩

namespace JobTable

def sweepDeeds (jobs : List Job) (calls : List ProbeCall) : List Deed :=
  (jobs.zip calls).flatMap fun (job, call) =>
    .probed call :: if call.sawExit then [.wrote (job.markDone.display ++ "\n")] else []

theorem sweepDeeds_cons (job : Job) (rest : List Job) (call : ProbeCall) (calls : List ProbeCall) :
    sweepDeeds (job :: rest) (call :: calls) =
      .probed call :: (if call.sawExit then [.wrote (job.markDone.display ++ "\n")] else []) ++
        sweepDeeds rest calls := rfl

theorem sweep_traced (h : Host σ) {write : Writer σ}
    (accepts : ∀ text s, (write text s).1 = .ok ()) (jobs : List Job) (s : σ) (log : List Deed) :
    ∃ calls, sweep h.traced.probe write.traced jobs (.ok ()) (s, log) =
        ((sweep h.probe write jobs (.ok ()) s).1, (sweep h.probe write jobs (.ok ()) s).2.1,
          (sweep h.probe write jobs (.ok ()) s).2.2, log ++ sweepDeeds jobs calls) ∧
      calls.map ProbeCall.pid = jobs.map Job.pid ∧
      (sweep h.probe write jobs (.ok ()) s).1 = survivors jobs calls := by
  induction jobs generalizing s log with
  | nil => exact ⟨[], by simp [sweep, sweepDeeds], rfl, rfl⟩
  | cons job rest ih =>
      let call : ProbeCall := ⟨job.pid, (h.probe job.pid s).1⟩
      cases exited : call.sawExit with
      | true =>
          obtain ⟨calls, same, pids, kept⟩ :=
            ih (write (job.markDone.display ++ "\n") (h.probe job.pid s).2).2
              (log ++ [.probed call] ++ [.wrote (job.markDone.display ++ "\n")])
          refine ⟨call :: calls, ?_, by rw [List.map_cons, pids]; rfl, ?_⟩
          · rw [sweep_exited h.traced.probe _ _ _ _ _ exited, sweep_exited h.probe _ _ _ _ _ exited]
            simp only [notify, traced_probe, traced_write, Deed.after, accepts]
            rw [same, sweepDeeds_cons, exited]
            simp
          · rw [sweep_exited h.probe _ _ _ _ _ exited, survivors_cons, if_pos exited, ← kept]
            simp only [notify, accepts]
      | false =>
          obtain ⟨calls, same, pids, kept⟩ := ih (h.probe job.pid s).2 (log ++ [.probed call])
          refine ⟨call :: calls, ?_, by rw [List.map_cons, pids]; rfl, ?_⟩
          · rw [sweep_kept h.traced.probe _ _ _ _ _ exited, sweep_kept h.probe _ _ _ _ _ exited]
            simp only [traced_probe, Deed.after]
            rw [same, sweepDeeds_cons, exited]
            simp
          · rw [sweep_kept h.probe _ _ _ _ _ exited, kept, survivors_cons, exited]
            rfl

end JobTable
end LineShell

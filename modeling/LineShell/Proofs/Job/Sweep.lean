import LineShell.Job.Table

/-!
One sweep over a job table, with the calls of its probe written down beside the state. Writing
them down changes nothing of the sweep. The calls go through the jobs once, in order, and a job
stays unless its own call found the process ended.
-/
namespace LineShell
variable {σ : Type}

structure ProbeCall where
  pid : ProcessId
  answer : Except IoError Liveness

def ProbeCall.sawExit (call : ProbeCall) : Bool :=
  match call.answer with
  | .ok .exited => true
  | _ => false

def Probe.recorded (probe : Probe σ) : Probe (σ × List ProbeCall) := fun pid s =>
  let (answer, next) := probe pid s.1
  (answer, next, s.2 ++ [{ pid, answer }])

def Writer.recorded (write : Writer σ) : Writer (σ × List ProbeCall) := fun text s =>
  let (result, next) := write text s.1
  (result, next, s.2)

namespace JobTable

/-- The jobs whose calls, taken in the same order, did not find them ended. -/
def survivors (jobs : List Job) (calls : List ProbeCall) : List Job :=
  ((jobs.zip calls).filter (!·.2.sawExit)).map Prod.fst

def exits (jobs : List Job) (calls : List ProbeCall) : List JobId :=
  ((jobs.zip calls).filter (·.2.sawExit)).map (·.1.id)

theorem survivors_cons (job : Job) (rest : List Job) (call : ProbeCall) (calls : List ProbeCall) :
    survivors (job :: rest) (call :: calls) =
      if call.sawExit then survivors rest calls else job :: survivors rest calls := by
  cases h : call.sawExit <;> simp [survivors, h]

theorem exits_cons (job : Job) (rest : List Job) (call : ProbeCall) (calls : List ProbeCall) :
    exits (job :: rest) (call :: calls) =
      if call.sawExit then job.id :: exits rest calls else exits rest calls := by
  cases h : call.sawExit <;> simp [exits, h]

theorem sweep_exited (probe : Probe σ) (write : Writer σ) (job : Job) (rest : List Job)
    (so : Except IoError Unit) (s : σ)
    (h : ProbeCall.sawExit ⟨job.pid, (probe job.pid s).1⟩ = true) :
    sweep probe write (job :: rest) so s =
      sweep probe write rest (notify write job so (probe job.pid s).2).1
        (notify write job so (probe job.pid s).2).2 := by
  rw [sweep]
  generalize probe job.pid s = called at h ⊢
  obtain ⟨_ | _ | _, next⟩ := called
  · contradiction
  · contradiction
  · rfl

theorem sweep_kept (probe : Probe σ) (write : Writer σ) (job : Job) (rest : List Job)
    (so : Except IoError Unit) (s : σ)
    (h : ProbeCall.sawExit ⟨job.pid, (probe job.pid s).1⟩ = false) :
    sweep probe write (job :: rest) so s =
      (job :: (sweep probe write rest so (probe job.pid s).2).1,
        (sweep probe write rest so (probe job.pid s).2).2) := by
  rw [sweep]
  generalize probe job.pid s = called at h ⊢
  obtain ⟨_ | _ | _, next⟩ := called
  · rfl
  · rfl
  · contradiction

theorem notify_recorded (write : Writer σ) (job : Job) (so : Except IoError Unit) (s : σ)
    (calls : List ProbeCall) : notify (Writer.recorded write) job so (s, calls) =
      ((notify write job so s).1, (notify write job so s).2, calls) := by
  cases so <;> rfl

theorem sweep_recorded (probe : Probe σ) (write : Writer σ) (jobs : List Job)
    (so : Except IoError Unit) (s : σ) (earlier : List ProbeCall) :
    ∃ calls, sweep (Probe.recorded probe) (Writer.recorded write) jobs so (s, earlier) =
        ((sweep probe write jobs so s).1, (sweep probe write jobs so s).2.1,
          (sweep probe write jobs so s).2.2, earlier ++ calls) ∧
      calls.map ProbeCall.pid = jobs.map Job.pid ∧
      (sweep probe write jobs so s).1 = survivors jobs calls := by
  induction jobs generalizing so s earlier with
  | nil => exact ⟨[], by simp [sweep], rfl, rfl⟩
  | cons job rest ih =>
      let call : ProbeCall := ⟨job.pid, (probe job.pid s).1⟩
      cases h : call.sawExit with
      | true =>
          let told := notify write job so (probe job.pid s).2
          obtain ⟨calls, same, pids, kept⟩ := ih told.1 told.2 (earlier ++ [call])
          refine ⟨call :: calls, ?_, by rw [List.map_cons, pids]; rfl, ?_⟩
          · rw [sweep_exited (Probe.recorded probe) _ _ _ _ _ h, sweep_exited probe _ _ _ _ _ h]
            simp only [Probe.recorded, notify_recorded]
            rw [same, List.append_assoc, List.singleton_append]
          · rw [sweep_exited probe _ _ _ _ _ h, kept, survivors_cons, if_pos h]
      | false =>
          obtain ⟨calls, same, pids, kept⟩ := ih so (probe job.pid s).2 (earlier ++ [call])
          refine ⟨call :: calls, ?_, by rw [List.map_cons, pids]; rfl, ?_⟩
          · rw [sweep_kept (Probe.recorded probe) _ _ _ _ _ h, sweep_kept probe _ _ _ _ _ h]
            simp only [Probe.recorded]
            rw [same, List.append_assoc, List.singleton_append]
          · rw [sweep_kept probe _ _ _ _ _ h, kept, survivors_cons, h]
            rfl

theorem exits_sublist (jobs : List Job) (calls : List ProbeCall) :
    (exits jobs calls).Sublist (jobs.map Job.id) := by
  induction jobs generalizing calls with
  | nil => exact .slnil
  | cons job rest ih =>
      cases calls with
      | nil => exact List.nil_sublist _
      | cons call calls =>
          rw [exits_cons]
          split
          · exact (ih calls).cons_cons _
          · exact (ih calls).cons _

theorem mem_of_mem_exits {jobs : List Job} {calls : List ProbeCall} {id : JobId}
    (h : id ∈ exits jobs calls) : id ∈ jobs.map Job.id :=
  (exits_sublist jobs calls).subset h

/-- With distinct ids, those who stay can be told by id. -/
theorem survivors_eq_filter {jobs : List Job} {calls : List ProbeCall}
    (distinct : (jobs.map Job.id).Nodup) (whole : calls.length = jobs.length) :
    survivors jobs calls = jobs.filter (·.id ∉ exits jobs calls) := by
  induction jobs generalizing calls with
  | nil => rfl
  | cons job rest ih =>
      cases calls with
      | nil => contradiction
      | cons call calls =>
          rw [List.map_cons, List.nodup_cons] at distinct
          have others := ih distinct.2 (Nat.succ.inj whole)
          rw [survivors_cons, exits_cons]
          cases h : call.sawExit with
          | true =>
              have apart : ∀ other ∈ rest, other.id ≠ job.id := fun other mem same =>
                distinct.1 (same ▸ List.mem_map_of_mem mem)
              rw [if_pos rfl, if_pos rfl, others, List.filter_cons_of_neg (by simp)]
              apply List.filter_congr
              intro other mem
              simp [apart other mem]
          | false =>
              have stays : job.id ∉ exits rest calls := fun mem => distinct.1 (mem_of_mem_exits mem)
              rw [if_neg nofun, if_neg nofun, others,
                List.filter_cons_of_pos (by simpa using stays)]

def reapCalls (table : JobTable) (probe : Probe σ) (write : Writer σ) (s : σ) : List ProbeCall :=
  (table.reap (Probe.recorded probe) (Writer.recorded write) (s, [])).2.2.2

/-- Writing the calls down changes nothing else. -/
theorem reap_recorded (table : JobTable) (probe : Probe σ) (write : Writer σ) (s : σ) :
    table.reap (Probe.recorded probe) (Writer.recorded write) (s, []) =
      ((table.reap probe write s).1, (table.reap probe write s).2.1,
        (table.reap probe write s).2.2, table.reapCalls probe write s) := by
  obtain ⟨calls, same, -⟩ := sweep_recorded probe write table.jobs (.ok ()) s []
  simp only [reapCalls, reap, same]

theorem reapCalls_pids (table : JobTable) (probe : Probe σ) (write : Writer σ) (s : σ) :
    (table.reapCalls probe write s).map ProbeCall.pid = table.jobs.map Job.pid := by
  obtain ⟨calls, same, pids, -⟩ := sweep_recorded probe write table.jobs (.ok ()) s []
  simp only [reapCalls, reap, same]
  exact pids

theorem reap_table (table : JobTable) (probe : Probe σ) (write : Writer σ) (s : σ) :
    (table.reap probe write s).2.1 =
      { table with jobs := survivors table.jobs (table.reapCalls probe write s) } := by
  obtain ⟨calls, same, -, kept⟩ := sweep_recorded probe write table.jobs (.ok ()) s []
  simp only [reapCalls, reap, same, kept]
  rfl

end JobTable
end LineShell

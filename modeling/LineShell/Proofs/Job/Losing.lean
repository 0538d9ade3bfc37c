import LineShell.Proofs.Job.Announcing
import LineShell.Proofs.Job.Output

/-!
Sweeps whose output fails. What a sweep asks and which jobs it drops does not hang on its output:
it asks about all jobs, and beside that writes the lines about those that ended, up to the first
that fails. What is lost then is not written later, since no sweep writes about a job that is not in
its table.
-/
namespace LineShell
variable {σ τ υ : Type}

def Probe.beside (τ : Type) (probe : Probe σ) : Probe (σ × τ) := fun pid s =>
  let (answer, next) := probe pid s.1
  (answer, next, s.2)

def Writer.beside (σ : Type) (write : Writer τ) : Writer (σ × τ) := fun text s =>
  let (result, next) := write text s.2
  (result, s.1, next)

abbrev Attempt := String × Except IoError Unit

def Writer.logged (write : Writer τ) : Writer (τ × List Attempt) := fun text t =>
  let (result, next) := write text t.1
  (result, next, t.2 ++ [(text, result)])

/-- The attempts to write texts that come to a result: all succeed, or the last one fails. -/
inductive Attempted (texts : List String) : Except IoError Unit → List Attempt → Prop
  | all : Attempted texts (.ok ()) (texts.map (·, .ok ()))
  | failed (told : List String) {line : String} {lost : List String} (e : IoError) :
      texts = told ++ line :: lost →
      Attempted texts (.error e) (told.map (·, .ok ()) ++ [(line, .error e)])

theorem Attempted.cons {texts : List String} {result : Except IoError Unit}
    {attempts : List Attempt} (h : Attempted texts result attempts) (text : String) :
    Attempted (text :: texts) result ((text, .ok ()) :: attempts) := by
  cases h with
  | all => exact .all
  | failed told e cut => exact .failed (text :: told) e (by rw [cut]; rfl)

theorem Writer.each_logged (write : Writer τ) (texts : List String) (t : τ)
    (log : List Attempt) :
    ∃ attempts, write.logged.each texts (t, log) =
        ((write.each texts t).1, (write.each texts t).2, log ++ attempts) ∧
      Attempted texts (write.each texts t).1 attempts := by
  induction texts generalizing t log with
  | nil => exact ⟨[], by simp [each], .all⟩
  | cons text rest ih =>
      rw [each, each, logged]
      dsimp only
      generalize write text t = out
      obtain ⟨e | _, next⟩ := out
      · exact ⟨[(text, .error e)], rfl, .failed [] e rfl⟩
      · obtain ⟨attempts, same, attempted⟩ := ih next (log ++ [(text, .ok ())])
        refine ⟨(text, .ok ()) :: attempts, ?_, attempted.cons text⟩
        dsimp only
        rw [same, List.append_assoc, List.singleton_append]

theorem Writer.each_accepted {write : Writer τ} (accepts : ∀ text t, (write text t).1 = .ok ())
    (texts : List String) (t : τ) : (write.each texts t).1 = .ok () := by
  induction texts generalizing t with
  | nil => rfl
  | cons text rest ih =>
      have ok := accepts text t
      rw [each]
      generalize write text t = out at ok ⊢
      obtain ⟨_, next⟩ := out
      cases ok
      exact ih next

namespace JobTable

def probeAll (probe : Probe σ) : List Job → σ → List ProbeCall × σ
  | [], s => ([], s)
  | job :: rest, s =>
      let (answer, s) := probe job.pid s
      let (calls, s) := probeAll probe rest s
      (⟨job.pid, answer⟩ :: calls, s)

def endLines (jobs : List Job) (calls : List ProbeCall) : List String :=
  (JobRecord.swept jobs calls).announcements.map Announcement.line

theorem endLines_cons (job : Job) (rest : List Job) (call : ProbeCall) (calls : List ProbeCall) :
    endLines (job :: rest) (call :: calls) =
      if call.sawExit then (job.markDone.display ++ "\n") :: endLines rest calls
      else endLines rest calls := by
  cases h : call.sawExit <;>
    simp [endLines, JobRecord.announcements, h, Announcement.line_ended]

theorem probeAll_recorded (probe : Probe σ) (jobs : List Job) (s : σ) (earlier : List ProbeCall) :
    probeAll (Probe.recorded probe) jobs (s, earlier) =
      ((probeAll probe jobs s).1, (probeAll probe jobs s).2,
        earlier ++ (probeAll probe jobs s).1) := by
  induction jobs generalizing s earlier with
  | nil => simp [probeAll]
  | cons job rest ih => simp [probeAll, Probe.recorded, ih]

theorem probeAll_pids (probe : Probe σ) (jobs : List Job) (s : σ) :
    (probeAll probe jobs s).1.map ProbeCall.pid = jobs.map Job.pid := by
  induction jobs generalizing s with
  | nil => rfl
  | cons job rest ih => simp [probeAll, ih]

def tell (write : Writer τ) (so : Except IoError Unit) (lines : List String) (t : τ) :
    Except IoError Unit × τ :=
  match so with
  | .ok _ => write.each lines t
  | .error e => (.error e, t)

theorem tell_cons (write : Writer τ) (job : Job) (so : Except IoError Unit) (lines : List String)
    (t : τ) :
    tell write so ((job.markDone.display ++ "\n") :: lines) t =
      tell write (notify write job so t).1 lines (notify write job so t).2 := by
  cases so with
  | error e => rfl
  | ok _ =>
      simp only [tell, Writer.each, notify]
      generalize write (job.markDone.display ++ "\n") t = out
      obtain ⟨_ | _, next⟩ := out <;> rfl

theorem notify_beside (write : Writer τ) (job : Job) (so : Except IoError Unit) (s : σ) (t : τ) :
    notify (write.beside σ) job so (s, t) =
      ((notify write job so t).1, s, (notify write job so t).2) := by
  cases so <;> rfl

/-- The questions of a sweep and its output do not hang on each other. -/
theorem sweep_beside (probe : Probe σ) (write : Writer τ) (jobs : List Job)
    (so : Except IoError Unit) (s : σ) (t : τ) :
    sweep (probe.beside τ) (write.beside σ) jobs so (s, t) =
      let (calls, last) := probeAll probe jobs s
      let told := tell write so (endLines jobs calls) t
      (survivors jobs calls, told.1, last, told.2) := by
  induction jobs generalizing so s t with
  | nil => cases so <;> rfl
  | cons job rest ih =>
      simp only [probeAll, endLines_cons, survivors_cons]
      cases h : ProbeCall.sawExit ⟨job.pid, (probe job.pid s).1⟩ with
      | true =>
          rw [sweep_exited (probe.beside τ) _ _ _ _ _ h, notify_beside]
          simp only [Probe.beside, if_true, tell_cons]
          exact ih ..
      | false =>
          rw [sweep_kept (probe.beside τ) _ _ _ _ _ h]
          simp only [Probe.beside, Bool.false_eq_true, if_false]
          rw [ih]

/-- A sweep with its questions and its output written down. -/
theorem reap_logged (table : JobTable) (probe : Probe σ) (write : Writer τ) (s : σ) (t : τ) :
    let (calls, last) := probeAll probe table.jobs s
    let told := write.each (endLines table.jobs calls) t
    ∃ attempts, table.reap ((Probe.recorded probe).beside _) (write.logged.beside _)
        ((s, []), t, []) =
          (told.1, { table with jobs := survivors table.jobs calls }, (last, calls), told.2,
            attempts) ∧
      Attempted (endLines table.jobs calls) told.1 attempts := by
  obtain ⟨attempts, same, attempted⟩ :=
    write.each_logged (endLines table.jobs (probeAll probe table.jobs s).1) t []
  refine ⟨attempts, ?_, attempted⟩
  rw [reap, sweep_beside, probeAll_recorded]
  dsimp only [tell]
  rw [same]
  rfl

/-- A sweep asks its writer only for lines about jobs in its table. -/
theorem sweep_attempts (probe : Probe σ) (write : Writer σ) (jobs : List Job)
    (so : Except IoError Unit) (s : σ) (log : List Attempt) :
    ∃ attempts, sweep (probe.beside _) write.logged jobs so (s, log) =
        ((sweep probe write jobs so s).1, (sweep probe write jobs so s).2.1,
          (sweep probe write jobs so s).2.2, log ++ attempts) ∧
      ∀ attempt ∈ attempts, ∃ job ∈ jobs, attempt.1 = job.markDone.display ++ "\n" := by
  induction jobs generalizing so s log with
  | nil => exact ⟨[], by simp [sweep], nofun⟩
  | cons job rest ih =>
      have wider {attempts : List Attempt}
          (inside : ∀ attempt ∈ attempts, ∃ job ∈ rest, attempt.1 = job.markDone.display ++ "\n") :
          ∀ attempt ∈ attempts, ∃ other ∈ job :: rest,
            attempt.1 = other.markDone.display ++ "\n" := by
        intro attempt mem
        obtain ⟨other, found, line⟩ := inside attempt mem
        exact ⟨other, List.mem_cons_of_mem _ found, line⟩
      cases h : ProbeCall.sawExit ⟨job.pid, (probe job.pid s).1⟩ with
      | false =>
          obtain ⟨attempts, same, inside⟩ := ih so (probe job.pid s).2 log
          refine ⟨attempts, ?_, wider inside⟩
          rw [sweep_kept (probe.beside _) _ _ _ _ _ h, sweep_kept probe _ _ _ _ _ h]
          simp only [Probe.beside, same]
      | true =>
          rw [sweep_exited (probe.beside _) _ _ _ _ _ h, sweep_exited probe _ _ _ _ _ h]
          cases so with
          | error e =>
              obtain ⟨attempts, same, inside⟩ := ih (.error e) (probe job.pid s).2 log
              exact ⟨attempts, same, wider inside⟩
          | ok _ =>
              let line := job.markDone.display ++ "\n"
              let told := write line (probe job.pid s).2
              obtain ⟨attempts, same, inside⟩ := ih told.1 told.2 (log ++ [(line, told.1)])
              refine ⟨(line, told.1) :: attempts, ?_, ?_⟩
              · rw [List.append_assoc, List.singleton_append] at same
                exact same
              · exact List.forall_mem_cons.mpr ⟨⟨job, List.mem_cons_self, rfl⟩, wider inside⟩

def said (table : JobTable) (s : σ) : JobEvent σ → List String
  | .register .. => []
  | .reap probe write =>
      let (_, _, _, attempts) := table.reap (probe.beside _) write.logged (s, [])
      attempts.map Prod.fst

def saidAll (table : JobTable) (s : σ) : List (JobEvent σ) → List String
  | [] => []
  | event :: rest =>
      let (_, next, last) := table.step s event
      table.said s event ++ next.saidAll last rest

theorem mem_said {table : JobTable} {s : σ} {event : JobEvent σ} {text : String}
    (h : text ∈ table.said s event) :
    ∃ job ∈ table.jobs, text = (Announcement.ended job.id job.command).line := by
  cases event with
  | register pid command => contradiction
  | reap probe write =>
      obtain ⟨attempts, same, inside⟩ := sweep_attempts probe write table.jobs (.ok ()) s []
      simp only [said, reap, same, List.nil_append] at h
      obtain ⟨attempt, mem, rfl⟩ := List.mem_map.mp h
      obtain ⟨job, found, line⟩ := inside attempt mem
      exact ⟨job, found, line.trans (Announcement.line_ended job).symm⟩

/-- No sweep has a line to write about a job that an earlier one found ended. -/
theorem not_mem_saidAll {history : List JobRecord} {table : JobTable}
    (follows : Follows history table) (events : List (JobEvent σ)) (s : σ)
    (room : (registered history).length + (events.filterMap JobEvent.start?).length < UInt32.size)
    {id : JobId} (gone : id ∈ ended history) (command : String) :
    (Announcement.ended id command).line ∉ table.saidAll s events := by
  induction events generalizing history table s with
  | nil => exact List.not_mem_nil
  | cons event rest ih =>
      have silent : (Announcement.ended id command).line ∉ table.said s event := fun told => by
        obtain ⟨job, found, line⟩ := mem_said told
        have same : id = job.id :=
          congrArg Prod.fst (Announcement.topic_eq_of_line_eq line)
        exact (present_subset (follows.jobs ▸ found)).2 (same ▸ gone)
      rw [saidAll, List.mem_append, not_or]
      refine ⟨silent, ?_⟩
      rw [← List.singleton_append, List.filterMap_append, List.length_append] at room
      have next := follows_run follows [event] s (by omega)
      have starts := congrArg List.length (registered_run table s [event])
      rw [List.length_map] at starts
      refine ih next _ ?_ ?_
      · rw [registered_append, List.length_append, starts]
        omega
      · rw [ended_append]
        exact List.mem_append_left _ gone

theorem mem_endLines {jobs : List Job} {calls : List ProbeCall} {line : String}
    (h : line ∈ endLines jobs calls) :
    ∃ id command, id ∈ exits jobs calls ∧ line = (Announcement.ended id command).line := by
  obtain ⟨_, told, rfl⟩ := List.mem_map.mp h
  obtain ⟨⟨job, call⟩, found, rfl⟩ := List.mem_map.mp told
  exact ⟨job.id, job.command, List.mem_map.mpr ⟨(job, call), found, rfl⟩, rfl⟩

/-- The lines of a sweep over a table that came about by starts and sweeps are not written again. -/
theorem not_mem_saidAll_survivors (before : List (JobEvent σ)) (s : σ) {calls : List ProbeCall}
    (later : List (JobEvent τ)) (t : τ)
    (room : (before.filterMap JobEvent.start?).length +
      (later.filterMap JobEvent.start?).length < UInt32.size) :
    let table := (({} : JobTable).run s before).2.1
    calls.map ProbeCall.pid = table.jobs.map Job.pid →
    ∀ line ∈ endLines table.jobs calls,
      line ∉ saidAll { table with jobs := survivors table.jobs calls } t later := by
  intro table pids line mem
  obtain ⟨id, command, exited, rfl⟩ := mem_endLines mem
  have follows : Follows (({} : JobTable).run s before).1 table :=
    follows_run follows_empty before s (by simp [registered]; omega)
  have starts := congrArg List.length (registered_run {} s before)
  rw [List.length_map] at starts
  refine not_mem_saidAll (follows_swept follows pids) later t ?_ ?_ command
  · rw [registered_append, List.length_append]
    rwa [starts, show (registered [.swept table.jobs calls]).length = 0 from rfl, Nat.add_zero]
  · rw [ended_append]
    exact List.mem_append_right _ (by simpa [ended, JobRecord.ended] using exited)

/-- A sweep over any table, once with an output that takes `n` bytes in all and once with one that
takes everything. Both ask the same questions in the same order, find the same jobs ended and leave
the same table. The full output is the lines about the ended jobs; of these bytes the narrow one has
the first `n`, and the sweep fails just when there are more, with the error of the first line that
did not go through whole, after which nothing more is tried. Whatever happens to the table later,
no sweep tries one of these lines again. -/
theorem reap_into_limited {port : Port τ} {n : Nat} {taken : τ → Bytes}
    (limited : port.Limited n taken) {pieces : String → List String}
    (whole : ∀ text, String.join (pieces text) = text) {free : Writer υ}
    (accepts : ∀ text u, (free text u).1 = .ok ()) (table : JobTable) (probe : Probe σ) (s : σ)
    {t : τ} (fresh : taken t = []) (u : υ) :
    let (result, left, asked, narrow, attempts) :=
      table.reap ((Probe.recorded probe).beside _) ((port.writer pieces).logged.beside _)
        ((s, []), t, [])
    let (success, kept, questions, _, written) :=
      table.reap ((Probe.recorded probe).beside _) (free.logged.beside _) ((s, []), u, [])
    let lines := endLines table.jobs questions.2
    left = kept ∧ asked = questions ∧
      kept = { table with jobs := survivors table.jobs questions.2 } ∧
      success = .ok () ∧ written = lines.map (·, .ok ()) ∧
      taken narrow = (lines.flatMap Bytes.ofString).take n ∧
      (result = .ok () ↔ (lines.flatMap Bytes.ofString).length ≤ n) ∧
      Attempted lines result attempts ∧
      ∀ {ρ ω : Type} (before : List (JobEvent ρ)) (r : ρ) (later : List (JobEvent ω)) (w : ω),
        table = (({} : JobTable).run r before).2.1 →
        (before.filterMap JobEvent.start?).length + (later.filterMap JobEvent.start?).length <
          UInt32.size →
        ∀ line ∈ lines, line ∉ left.saidAll w later := by
  obtain ⟨attempts, narrowly, attempted⟩ := table.reap_logged probe (port.writer pieces) s t
  obtain ⟨written, freely, complete⟩ := table.reap_logged probe free s u
  have pids := probeAll_pids probe table.jobs s
  rw [narrowly, freely]
  generalize probeAll probe table.jobs s = asked at *
  obtain ⟨calls, last⟩ := asked
  dsimp only at *
  have fills := Writer.fills_each (fun text _ room => limited.writer whole text room)
    (endLines table.jobs calls) (t := t) (by simp [fresh])
  rw [Writer.each_accepted accepts] at complete ⊢
  cases complete with
  | all =>
      refine ⟨rfl, rfl, rfl, rfl, rfl, ?_, ?_, attempted, ?_⟩
      · simpa [fresh] using fills.added
      · simpa [fresh] using fills.ok_iff
      · intro ρ ω before r later w made room
        subst made
        exact not_mem_saidAll_survivors before r later w room pids

/-- A port that takes at most three bytes at a time, and `n` in all. -/
def narrow (n : Nat) : Port Bytes := fun bytes taken =>
  match min (min 3 (n - taken.length)) bytes.length with
  | 0 => (.error (.os .noSpace), taken)
  | k + 1 => (.ok (k + 1), taken ++ bytes.take (k + 1))

theorem narrow_limited (n : Nat) : (narrow n).Limited n id where
  takes bytes taken some below := by
    have offered := List.length_pos_iff.mpr some
    rw [id] at below
    obtain ⟨k, helping⟩ : ∃ k, min (min 3 (n - taken.length)) bytes.length = k + 1 :=
      ⟨_, (Nat.sub_add_cancel (by omega)).symm⟩
    refine ⟨k, taken ++ bytes.take (k + 1), ?_, ?_, ?_, rfl⟩
    · rw [narrow, helping]
    · rw [id]
      omega
    · omega
  refuses bytes taken _ full := by
    have none : min (min 3 (n - taken.length)) bytes.length = 0 := by
      rw [id] at full
      omega
    exact ⟨.os .noSpace, taken, by rw [narrow, none], rfl⟩

def halves (text : String) : List String :=
  [.ofList (text.toList.take 5), .ofList (text.toList.drop 5)]

theorem join_halves (text : String) : String.join (halves text) = text := by
  rw [halves, String.join_cons, String.join_cons, String.join_nil, String.append_empty,
    ← String.ofList_append, List.take_append_drop, String.ofList_toList]

/-- Counts the questions. There is no answer to the second, and the fourth process lives. -/
def moody : Probe Nat := fun _ n =>
  (if n = 1 then .error (.os .invalidArgument) else .ok (if n = 3 then .alive else .exited), n + 1)

def mute : Writer Unit := fun _ u => (.ok (), u)

def fourStarts : List (JobEvent Unit) :=
  ["/a", "/b", "/c", "/d"].map (.register 7)

def fourJobs : JobTable :=
  (({} : JobTable).run () fourStarts).2.1

/-- The output ends in the middle of the line about the third job. -/
theorem reap_into_narrow :
    (narrow 27).Limited 27 id ∧ (∀ text, String.join (halves text) = text) ∧
    (∀ text u, (mute text u).1 = .ok ()) ∧ id ([] : Bytes) = [] ∧
    let (result, left, asked, taken, _) :=
      fourJobs.reap (moody.recorded.beside _) (((narrow 27).writer halves).logged.beside _)
        ((0, []), [], [])
    result ≠ .ok () ∧ left.jobs.map Job.id = [2, 4] ∧ asked.1 = 4 ∧
      taken = Bytes.ofString "[1]  Done    /a\n[3]  Done  " ∧
      ∀ later : List (JobEvent Unit), (later.filterMap JobEvent.start?).length < 1000 →
        "[3]  Done    /c\n" ∉ left.saidAll () later := by
  have accepts : ∀ text u, (mute text u).1 = .ok () := fun _ _ => rfl
  refine ⟨narrow_limited 27, join_halves, accepts, rfl, ?_⟩
  have both := reap_into_limited (narrow_limited 27) join_halves accepts fourJobs moody 0
    (t := []) rfl ()
  revert both
  -- The runs are named first, or Lean would follow them to see what comes of them.
  generalize free : fourJobs.reap (moody.recorded.beside _) (mute.logged.beside _)
    ((0, []), (), []) = freed
  generalize fourJobs.reap (moody.recorded.beside _) (((narrow 27).writer halves).logged.beside _)
    ((0, []), [], []) = narrowed
  obtain ⟨success, kept, questions, u, written⟩ := freed
  obtain ⟨result, left, asked, taken, attempts⟩ := narrowed
  obtain rfl : _ = questions := congrArg (fun out => out.2.2.1) free
  rintro ⟨rfl, rfl, rfl, -, -, rfl, ok, -, lost⟩
  refine ⟨?_, ?_, ?_, ?_, fun later few => lost fourStarts () later () rfl ?_ _ ?_⟩
  · rw [ne_eq, ok]
    decide +kernel
  · decide +kernel
  · decide +kernel
  · decide +kernel
  · have four : (fourStarts.filterMap JobEvent.start?).length = 4 := rfl
    rw [four]
    exact Nat.lt_trans (Nat.add_lt_add_left few 4) (by decide)
  · decide +kernel

end JobTable
end LineShell

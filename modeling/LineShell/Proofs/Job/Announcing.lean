import LineShell.Proofs.Job.History
import LineShell.Proofs.Job.Trace
import Mathlib.Data.List.Induction

/-!
What the user is told about jobs over a whole run of launches into the background and sweeps. Each
job that started is told of once, each job that a sweep found ended once more, by this sweep, and
nothing else is written.
-/
namespace LineShell
variable {σ : Type}

inductive Announcement where
  | started (id : JobId) (pid : ProcessId)
  | ended (id : JobId) (command : String)
  deriving DecidableEq, Repr

namespace Announcement

def line : Announcement → String
  | .started id pid => "[" ++ toString id ++ "] " ++ toString pid ++ "\n"
  | .ended id command => "[" ++ toString id ++ "]  Done    " ++ command ++ "\n"

theorem line_ended (job : Job) :
    (ended job.id job.command).line = job.markDone.display ++ "\n" := by
  apply String.toList_inj.mp
  simp [Job.display, Job.markDone, JobStatus.text, line]

def topic : Announcement → JobId × JobStatus
  | .started id _ => (id, .running)
  | .ended id _ => (id, .done)

theorem toList_toString (n : UInt32) : (toString n).toList = Nat.toDigits 10 n.toNat :=
  Nat.toList_repr

theorem isDigit_of_mem_toString {n : UInt32} {c : Char} (h : c ∈ (toString n).toList) :
    c.isDigit = true := by
  rw [toList_toString] at h
  exact Nat.isDigit_of_mem_toDigits (by decide) (by decide) h

theorem eq_of_toList_toString {m n : UInt32} (h : (toString m).toList = (toString n).toList) :
    m = n := by
  rw [toList_toString, toList_toString] at h
  have values := congrArg (Nat.ofDigitChars 10 · 0) h
  simp only [Nat.ofDigitChars_toDigits (b := 10) (by decide) (by decide)] at values
  exact UInt32.toNat_inj.mp values

theorem takeWhile_toString (n : UInt32) (c : Char) (rest : List Char) (h : c.isDigit = false) :
    ((toString n).toList ++ c :: rest).takeWhile Char.isDigit = (toString n).toList := by
  rw [List.takeWhile_append_of_pos fun _ => isDigit_of_mem_toString,
    List.takeWhile_cons_of_neg (by simp [h]), List.append_nil]

/-- After the number comes a digit in the one kind of line, and a blank in the other. -/
theorem toList_line (a : Announcement) :
    ∃ c rest, a.line.toList = '[' :: ((toString a.topic.1).toList ++ ']' :: ' ' :: c :: rest) ∧
      c.isDigit = decide (a.topic.2 = .running) := by
  cases a with
  | started id pid =>
      obtain ⟨c, rest, digits⟩ : ∃ c rest, (toString pid).toList = c :: rest :=
        List.exists_cons_of_ne_nil (toList_toString pid ▸ Nat.toDigits_ne_nil)
      refine ⟨c, rest ++ ['\n'], ?_, isDigit_of_mem_toString (n := pid) (by simp [digits])⟩
      simp [line, topic, digits]
  | ended id command =>
      refine ⟨' ', "Done    ".toList ++ command.toList ++ ['\n'], ?_, rfl⟩
      simp [line, topic]

theorem topic_eq_of_line_eq {a b : Announcement} (h : a.line = b.line) : a.topic = b.topic := by
  obtain ⟨c, rest, lineA, kindA⟩ := a.toList_line
  obtain ⟨d, tail, lineB, kindB⟩ := b.toList_line
  have same := congrArg String.toList h
  rw [lineA, lineB, List.cons_inj_right] at same
  have numbers := congrArg (List.takeWhile Char.isDigit) same
  rw [takeWhile_toString _ _ _ rfl, takeWhile_toString _ _ _ rfl] at numbers
  rw [numbers, List.append_cancel_left_eq] at same
  have ids : a.topic.1 = b.topic.1 := eq_of_toList_toString numbers
  have kinds : decide (a.topic.2 = .running) = decide (b.topic.2 = .running) := by
    rw [← kindA, ← kindB]
    simp only [List.cons.injEq, true_and] at same
    rw [same.1]
  refine Prod.ext ids ?_
  cases left : a.topic.2 <;> cases right : b.topic.2 <;> simp [left, right] at kinds ⊢

end Announcement

namespace JobRecord

def announcements : JobRecord → List Announcement
  | .registered id pid _ => [.started id pid]
  | .swept jobs calls =>
      ((jobs.zip calls).filter (·.2.sawExit)).map fun (job, _) => .ended job.id job.command

end JobRecord

/-- An operation on the job table: a launch into the background, whatever the command says, or a
sweep. -/
inductive JobAction where
  | launch (env : Environment) (shielded : Bool) (command : Command)
  | sweep

def JobAction.isLaunch : JobAction → Bool
  | .launch .. => true
  | .sweep => false

/-- What came of an operation: its records, told by the processes it started and the calls it made,
and the texts that it wrote. -/
structure Episode where
  records : List JobRecord
  written : List String

def Episode.Told (episode : Episode) : Prop :=
  episode.written =
    (episode.records.flatMap JobRecord.announcements).map Announcement.line

namespace JobTable

def perform (h : Host σ) (write : Writer σ) (table : JobTable) (s : σ) :
    JobAction → Episode × JobTable × σ
  | .launch env shielded command =>
      let command := { command with background := true }
      let (_, next, s') := launch h env shielded write command table s
      let (_, _, _, deeds) := launch h.traced env shielded write.traced command table (s, [])
      ({ records := (deeds.filterMap Deed.pid?).map (.registered next.issued · command.argv)
         written := deeds.filterMap Deed.text? }, next, s')
  | .sweep =>
      let (_, next, s') := table.reap h.probe write s
      let (_, _, _, deeds) := table.reap h.traced.probe write.traced (s, [])
      ({ records := [.swept table.jobs (deeds.filterMap Deed.call?)]
         written := deeds.filterMap Deed.text? }, next, s')

def performAll (h : Host σ) (write : Writer σ) (table : JobTable) (s : σ) :
    List JobAction → List Episode × JobTable × σ
  | [] => ([], table, s)
  | action :: rest =>
      let (episode, next, s) := table.perform h write s action
      let (episodes, last, s) := next.performAll h write s rest
      (episode :: episodes, last, s)

theorem calls_sweepDeeds {jobs : List Job} {calls : List ProbeCall}
    (pids : calls.map ProbeCall.pid = jobs.map Job.pid) :
    (sweepDeeds jobs calls).filterMap Deed.call? = calls := by
  induction jobs generalizing calls with
  | nil =>
      rw [List.map_nil, List.map_eq_nil_iff] at pids
      rw [pids]
      rfl
  | cons job rest ih =>
      cases calls with
      | nil => rfl
      | cons call calls =>
          rw [sweepDeeds_cons, List.filterMap_append, ih (List.cons.inj pids).2]
          cases call.sawExit <;> rfl

theorem texts_sweepDeeds (jobs : List Job) (calls : List ProbeCall) :
    (sweepDeeds jobs calls).filterMap Deed.text? =
      (JobRecord.swept jobs calls).announcements.map Announcement.line := by
  induction jobs generalizing calls with
  | nil => rfl
  | cons job rest ih =>
      cases calls with
      | nil => rfl
      | cons call calls =>
          rw [sweepDeeds_cons, List.cons_append, List.filterMap_cons_none rfl,
            List.filterMap_append, ih]
          simp only [JobRecord.announcements, List.zip_cons_cons]
          cases exited : call.sawExit with
          | false => simp [exited]
          | true =>
              simp [exited, Announcement.line_ended, Deed.text?]

variable {history : List JobRecord} {table : JobTable}

theorem perform_follows (h : Host σ) {write : Writer σ}
    (accepts : ∀ text s, (write text s).1 = .ok ()) (follows : Follows history table)
    (action : JobAction) (s : σ)
    (room : (registered history).length + [action].countP JobAction.isLaunch < UInt32.size) :
    Follows (history ++ (table.perform h write s action).1.records)
        (table.perform h write s action).2.1 ∧
      (table.perform h write s action).1.Told ∧
      (registered (table.perform h write s action).1.records).length ≤
        [action].countP JobAction.isLaunch := by
  cases action with
  | launch env shielded command =>
      have behind : ({ command with background := true } : Command).background = true := rfl
      unfold perform
      dsimp only
      generalize ({ command with background := true } : Command) = command at behind ⊢
      obtain ⟨deeds, same, done⟩ := launch_traced h env shielded write behind table s
      rw [same]
      generalize (launch h env shielded write command table s).2.1 = next at done ⊢
      cases done with
      | unfit | failed e =>
          refine ⟨?_, rfl, Nat.zero_le _⟩
          change Follows (history ++ []) table
          rwa [List.append_nil]
      | started pid => exact ⟨follows_register follows room pid _, rfl, Nat.le_refl 1⟩
  | sweep =>
      obtain ⟨calls, same, pids, kept⟩ := sweep_traced h accepts table.jobs s []
      simp only [perform, reap, same, List.nil_append, calls_sweepDeeds pids, kept]
      refine ⟨follows_swept follows pids, ?_, Nat.zero_le _⟩
      simp only [Episode.Told, texts_sweepDeeds, List.flatMap_singleton]

theorem performAll_follows (h : Host σ) {write : Writer σ}
    (accepts : ∀ text s, (write text s).1 = .ok ()) (follows : Follows history table)
    (actions : List JobAction) (s : σ)
    (room : (registered history).length + actions.countP JobAction.isLaunch < UInt32.size) :
    Follows (history ++ (table.performAll h write s actions).1.flatMap Episode.records)
        (table.performAll h write s actions).2.1 ∧
      ∀ episode ∈ (table.performAll h write s actions).1, episode.Told := by
  induction actions generalizing history table s with
  | nil => exact ⟨by simpa [performAll] using follows, nofun⟩
  | cons action rest ih =>
      rw [List.countP_cons] at room
      obtain ⟨next, told, grown⟩ := perform_follows h accepts follows action s (by
        rw [List.countP_singleton]
        omega)
      obtain ⟨last, others⟩ := ih next (table.perform h write s action).2.2 (by
        rw [registered_append, List.length_append]
        rw [List.countP_singleton] at grown
        omega)
      rw [List.append_assoc] at last
      exact ⟨last, List.forall_mem_cons.mpr ⟨told, others⟩⟩

theorem topics_swept (jobs : List Job) (calls : List ProbeCall) :
    (JobRecord.swept jobs calls).announcements.map Announcement.topic =
      (exits jobs calls).map (·, .done) := by
  simp only [JobRecord.announcements, exits, List.map_map]
  rfl

/-- Of the starts and the ends together, each is told of as often as it is recorded. -/
theorem topics_perm (history : List JobRecord) :
    ((history.flatMap JobRecord.announcements).map Announcement.topic).Perm
      ((registered history).map (·.id, .running) ++ (ended history).map (·, .done)) := by
  induction history with
  | nil => exact .nil
  | cons record rest ih =>
      cases record with
      | registered id pid command => exact ih.cons _
      | swept jobs calls =>
          rw [List.flatMap_cons, List.map_append, topics_swept]
          change List.Perm _ ((registered rest).map _ ++ (exits jobs calls ++ ended rest).map _)
          rw [List.map_append]
          -- The ends of this sweep are told of before the starts that come later.
          exact (ih.append_left _).trans (List.perm_append_comm_assoc ..)

theorem started_mem {job : Job} (h : job ∈ registered history) :
    .started job.id job.pid ∈ history.flatMap JobRecord.announcements := by
  obtain ⟨record, mem, made⟩ := List.mem_filterMap.mp h
  refine List.mem_flatMap.mpr ⟨record, mem, ?_⟩
  cases record with
  | registered id pid command =>
      cases made
      exact List.mem_singleton_self _
  | swept jobs calls => cases made

namespace Follows

/-- What a sweep of a history finds: the jobs of that moment, none of which was found ended. -/
theorem exits_fresh (follows : Follows history table) {before after : List JobRecord}
    {jobs : List Job} {calls : List ProbeCall} (eq : history = before ++ .swept jobs calls :: after)
    {id : JobId} (mem : id ∈ exits jobs calls) : id ∉ ended before := by
  obtain ⟨now, -⟩ := follows.sweeps before jobs calls after eq
  obtain ⟨job, inside, rfl⟩ := List.mem_map.mp (mem_of_mem_exits mem)
  exact (present_subset (now ▸ inside)).2

theorem exits_increasing (follows : Follows history table) {before after : List JobRecord}
    {jobs : List Job} {calls : List ProbeCall}
    (eq : history = before ++ .swept jobs calls :: after) :
    (exits jobs calls).Pairwise (· < ·) := by
  obtain ⟨now, -⟩ := follows.sweeps before jobs calls after eq
  have part : ((registered before).map Job.id).Sublist ((registered history).map Job.id) := by
    rw [eq, registered_append]
    exact (List.sublist_append_left _ _).map _
  have chosen : (exits jobs calls).Sublist ((registered history).map Job.id) := by
    refine ((exits_sublist jobs calls).trans ?_).trans part
    rw [now]
    exact List.filter_sublist.map _
  have numbers : ((registered history).map Job.id).Pairwise (· < ·) := by
    have counted : ((registered history).map (·.id.toNat)).Pairwise (· < ·) := by
      rw [follows.numbered]
      exact List.pairwise_lt_range' 1
    rw [List.pairwise_map] at counted ⊢
    exact counted
  exact numbers.sublist chosen

theorem ended_nodup (follows : Follows history table) : (ended history).Nodup := by
  suffices fronts : ∀ front back, history = front ++ back → (ended front).Nodup from
    fronts history [] (List.append_nil _).symm
  intro front
  -- Along the history: what a sweep finds ended was not found before, and comes once.
  induction front using List.reverseRecOn with
  | nil => exact fun _ _ => List.nodup_nil
  | append_singleton front record ih =>
      intro back eq
      rw [List.append_assoc, List.singleton_append] at eq
      rw [ended_append]
      cases record with
      | registered id pid command => simpa [ended, JobRecord.ended] using ih _ eq
      | swept jobs calls =>
          rw [show ended [.swept jobs calls] = exits jobs calls from List.append_nil _]
          have once : (exits jobs calls).Nodup :=
            (follows.exits_increasing eq).imp fun less same => by
              rw [same] at less
              exact UInt32.lt_irrefl _ less
          refine List.nodup_append'.mpr ⟨ih _ eq, once, fun id old new => ?_⟩
          exact follows.exits_fresh eq new old

theorem topics_nodup (follows : Follows history table) :
    ((history.flatMap JobRecord.announcements).map Announcement.topic).Nodup := by
  rw [(topics_perm history).nodup_iff, List.nodup_append']
  refine ⟨?_, follows.ended_nodup.map fun a b same => (Prod.mk.inj same).1, ?_⟩
  · have ids := follows.distinct.map (f := (·, JobStatus.running)) fun a b same =>
      (Prod.mk.inj same).1
    rwa [List.map_map] at ids
  · intro topic starts ends
    obtain ⟨job, -, rfl⟩ := List.mem_map.mp starts
    obtain ⟨id, -, same⟩ := List.mem_map.mp ends
    cases (Prod.mk.inj same).2

/-- A job found ended: where in the history that was, and that it had started before. -/
theorem end_of_mem (follows : Follows history table) {job : Job}
    (started : job ∈ registered history) (gone : job.id ∈ ended history) :
    ∃ before jobs calls after, history = before ++ .swept jobs calls :: after ∧
      job ∈ registered before ∧
      .ended job.id job.command ∈ (JobRecord.swept jobs calls).announcements := by
  obtain ⟨record, mem, inside⟩ := List.mem_flatMap.mp gone
  obtain ⟨before, after, rfl⟩ := List.append_of_mem mem
  cases record with
  | registered id pid command => cases inside
  | swept jobs calls =>
      obtain ⟨now, -⟩ := follows.sweeps before jobs calls after rfl
      obtain ⟨⟨other, call⟩, found, same⟩ := List.mem_map.mp inside
      have early : other ∈ registered before := by
        have := (List.of_mem_zip (List.mem_filter.mp found).1).1
        exact (present_subset (now ▸ this)).1
      have known : other ∈ registered (before ++ .swept jobs calls :: after) := by
        rw [registered_append]
        exact List.mem_append_left _ early
      rw [← List.inj_on_of_nodup_map follows.distinct known started same]
      exact ⟨before, jobs, calls, after, rfl, early, List.mem_map.mpr ⟨(other, call), found, rfl⟩⟩

theorem mem_announcements_iff (follows : Follows history table) (a : Announcement) :
    a ∈ history.flatMap JobRecord.announcements ↔
      ∃ job ∈ registered history, a = .started job.id job.pid ∨
        job.id ∈ ended history ∧ a = .ended job.id job.command := by
  constructor
  · intro told
    obtain ⟨record, mem, inside⟩ := List.mem_flatMap.mp told
    cases record with
    | registered id pid command =>
        refine ⟨{ id, pid, command }, List.mem_filterMap.mpr ⟨_, mem, rfl⟩, .inl ?_⟩
        exact List.mem_singleton.mp inside
    | swept jobs calls =>
        obtain ⟨⟨job, call⟩, found, rfl⟩ := List.mem_map.mp inside
        obtain ⟨before, after, rfl⟩ := List.append_of_mem mem
        obtain ⟨now, -⟩ := follows.sweeps before jobs calls after rfl
        have early := (List.of_mem_zip (List.mem_filter.mp found).1).1
        refine ⟨job, ?_, .inr ⟨?_, rfl⟩⟩
        · rw [registered_append]
          exact List.mem_append_left _ (present_subset (now ▸ early)).1
        · exact List.mem_flatMap.mpr ⟨_, mem, List.mem_map.mpr ⟨(job, call), found, rfl⟩⟩
  · rintro ⟨job, started, rfl | ⟨gone, rfl⟩⟩
    · exact started_mem started
    · obtain ⟨before, jobs, calls, after, rfl, -, inside⟩ := follows.end_of_mem started gone
      exact List.mem_flatMap.mpr ⟨_, List.mem_append_right _ List.mem_cons_self, inside⟩

theorem told_in_order (follows : Follows history table) {job : Job}
    (started : job ∈ registered history) (gone : job.id ∈ ended history) :
    [.started job.id job.pid, .ended job.id job.command].Sublist
      (history.flatMap JobRecord.announcements) := by
  obtain ⟨before, jobs, calls, after, rfl, early, inside⟩ := follows.end_of_mem started gone
  rw [List.flatMap_append, List.flatMap_cons]
  have first := List.singleton_sublist.mpr (started_mem early)
  have second := List.singleton_sublist.mpr (List.mem_append_left
    (after.flatMap JobRecord.announcements) inside)
  exact first.append second

end Follows

/-- Over any run on one table, with an output that takes everything: what is written is what the
records of each operation say, no line comes twice, and no line is about anything but the start of
a job or, once a sweep has found it ended, its end, in this order. A sweep asks about the jobs that
were not found ended before it, and tells of those it finds ended by increasing numbers. -/
theorem announced_once (h : Host σ) {write : Writer σ}
    (accepts : ∀ text s, (write text s).1 = .ok ()) (actions : List JobAction) (s : σ)
    (few : actions.countP JobAction.isLaunch < UInt32.size) :
    let episodes := (({} : JobTable).performAll h write s actions).1
    let history := episodes.flatMap Episode.records
    let said := history.flatMap JobRecord.announcements
    (∀ episode ∈ episodes, episode.Told) ∧
    (registered history).map (·.id.toNat) = List.range' 1 (registered history).length ∧
    (({} : JobTable).performAll h write s actions).2.1.jobs = present history ∧
    (said.map Announcement.line).Nodup ∧
    (∀ a, a ∈ said ↔ ∃ job ∈ registered history,
      a = .started job.id job.pid ∨ job.id ∈ ended history ∧ a = .ended job.id job.command) ∧
    (∀ job ∈ registered history, job.id ∈ ended history →
      [.started job.id job.pid, .ended job.id job.command].Sublist said) ∧
    (∀ before jobs calls after, history = before ++ .swept jobs calls :: after →
      jobs = present before ∧ calls.map ProbeCall.pid = jobs.map Job.pid ∧
      (exits jobs calls).Pairwise (· < ·) ∧ ∀ id ∈ exits jobs calls, id ∉ ended before) := by
  intro episodes history said
  obtain ⟨follows, told⟩ := performAll_follows h accepts follows_empty actions s (by
    rwa [show (registered []).length = 0 from rfl, Nat.zero_add])
  rw [List.nil_append] at follows
  have topics := follows.topics_nodup
  refine ⟨told, follows.numbered, follows.jobs, ?_, follows.mem_announcements_iff,
    fun job started gone => follows.told_in_order started gone, ?_⟩
  · refine topics.of_map.map_on fun a inA b inB same => ?_
    exact List.inj_on_of_nodup_map topics inA inB (Announcement.topic_eq_of_line_eq same)
  · intro before jobs calls after eq
    obtain ⟨now, pids⟩ := follows.sweeps before jobs calls after eq
    exact ⟨now, pids, follows.exits_increasing eq, fun id mem => follows.exits_fresh eq mem⟩

/-- A system on which all processes have one number. The second start fails, and so does the
first question; after it every process has ended. -/
def crowded : Host Nat where
  homeDir env _ := env.get? "HOME"
  currentDir _ := .ok "/"
  enterDir _ n := .ok n
  readFile _ n := (.error (.os .noEntry), n)
  replaceFile _ _ n := (.ok (), n)
  isExecutable _ _ := true
  openInput _ n := (.ok 3, n)
  openOutput _ _ n := (.ok 3, n)
  write _ _ n := (.ok (), n)
  flush n := (.ok (), n)
  readLine _ _ n := (.ok none, n)
  start _ n := (if n = 1 then .error (.os .execFormat) else .ok 7, n + 1)
  run _ n := (.ok .success, n)
  probe _ n := (if n = 3 then .error (.os .invalidArgument) else .ok .exited, n + 1)
  shield n := n

def threeStarts : List JobAction :=
  (["/a", "/b", "/c"].map fun path => .launch {} true { args := [path] }) ++ [.sweep, .sweep]

/-- The first job is told of by the second sweep only. -/
theorem announced_once_crowded :
    (∀ text n, (crowded.write Handle.output text n).1 = .ok ()) ∧
    threeStarts.countP JobAction.isLaunch < UInt32.size ∧
    (({} : JobTable).performAll crowded (crowded.write Handle.output) 0 threeStarts).1.map
        Episode.written =
      [["[1] 7\n"], [], ["[2] 7\n"], ["[2]  Done    /c\n"], ["[1]  Done    /a\n"]] := by
  have accepts : ∀ text n, (crowded.write Handle.output text n).1 = .ok () := fun _ _ => rfl
  have few : threeStarts.countP JobAction.isLaunch < UInt32.size := by decide
  obtain ⟨told, -⟩ := announced_once crowded accepts threeStarts 0 few
  refine ⟨accepts, few, ?_⟩
  rw [List.map_congr_left told]
  decide +kernel

end JobTable
end LineShell

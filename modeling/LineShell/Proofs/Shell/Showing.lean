import LineShell.Proofs.Job.History
import LineShell.Proofs.Job.Output
import LineShell.Proofs.Shell.Places

/-!
Showing the jobs. To show them is to write texts, one for each job, and to end well or with a number
that no job has. The lines of all jobs, each with its newline, are the listing of the table with one
newline behind it, and each of them says that its job is running.
-/
namespace LineShell
variable {σ : Type}

/-- An action that writes these texts one after another and then ends like this. It ends with the
first text that cannot be written, and does nothing else. -/
def Prints (write : Writer σ) (m : ShellM σ Unit) (texts : List String)
    (ending : Except ShellError Unit) : Prop :=
  ∀ running, m.run running =
    match write.each texts running.host with
    | (.ok _, s) => (ending.mapError Halt.failed, { running with host := s })
    | (.error e, s) => (.error (.failed (.io e)), { running with host := s })

namespace Prints
variable {write : Writer σ} {ending : Except ShellError Unit}

theorem nothing : Prints write (pure ()) [] (.ok ()) :=
  fun _ => rfl

theorem refusal (e : ShellError) : Prints write (ShellM.fail e) [] (.error e) :=
  fun _ => rfl

theorem cons (text : String) {m : ShellM σ Unit} {texts : List String}
    (rest : Prints write m texts ending) :
    Prints write (ShellM.emit write text >>= fun _ => m) (text :: texts) ending := by
  intro running
  rw [ShellM.run_bind, ShellM.run_emit, Writer.each]
  generalize write text running.host = out
  obtain ⟨e | _, s⟩ := out
  · rfl
  · exact rest { running with host := s }

theorem text (text : String) : Prints write (ShellM.emit write text) [text] (.ok ()) := by
  intro running
  rw [ShellM.run_emit, Writer.each]
  generalize write text running.host = out
  obtain ⟨e | _, s⟩ := out <;> rfl

theorem forM {α : Type} (items : List α) (text : α → String) :
    Prints write (items.forM fun item => ShellM.emit write (text item)) (items.map text)
      (.ok ()) := by
  induction items with
  | nil => exact nothing
  | cons item rest ih => exact ih.cons (text item)

theorem shell {m : ShellM σ Unit} {texts : List String} (prints : Prints write m texts ending)
    (running : Running σ) : (m.run running).2.shell = running.shell := by
  rw [prints running]
  generalize write.each texts running.host = out
  obtain ⟨e | _, s⟩ := out <;> rfl

/-- What is printed says all about an action. -/
theorem run_eq {m m' : ShellM σ Unit} {texts : List String} (prints : Prints write m texts ending)
    (prints' : Prints write m' texts ending) (running : Running σ) :
    m.run running = m'.run running :=
  (prints running).trans (prints' running).symm

end Prints

def Builtin.writeJob (write : Writer σ) (table : JobTable) (line : Job → String) (id : JobId) :
    ShellM σ Unit :=
  match table.get id with
  | .ok job => ShellM.emit write (line job)
  | .error e => ShellM.fail e

/-- The jobs that are found by numbers, in turn, up to the first number that no job has. -/
inductive LooksUp (table : JobTable) : List JobId → List Job → Except ShellError Unit → Prop
  | done : LooksUp table [] [] (.ok ())
  | missing {id : JobId} (rest : List JobId) : (∀ job ∈ table.jobs, job.id ≠ id) →
      LooksUp table (id :: rest) [] (.error (.jobNotFound id))
  | found {id : JobId} {rest : List JobId} {job : Job} {jobs : List Job}
      {ending : Except ShellError Unit} : table.get id = .ok job →
      LooksUp table rest jobs ending → LooksUp table (id :: rest) (job :: jobs) ending

namespace JobTable

theorem mem_of_get {table : JobTable} {id : JobId} {job : Job} (found : table.get id = .ok job) :
    job ∈ table.jobs ∧ job.id = id := by
  unfold get at found
  split at found
  · next other match_id =>
      cases found
      exact ⟨List.mem_of_find?_eq_some match_id, by simpa using List.find?_some match_id⟩
  · cases found

theorem get_absent {table : JobTable} {id : JobId} (absent : ∀ job ∈ table.jobs, job.id ≠ id) :
    table.get id = .error (.jobNotFound id) :=
  (table.get_eq_error_iff id _).mpr ⟨rfl, absent⟩

theorem exists_looksUp (table : JobTable) (ids : List JobId) :
    ∃ jobs ending, LooksUp table ids jobs ending := by
  induction ids with
  | nil => exact ⟨[], _, .done⟩
  | cons id rest ih =>
      cases got : table.get id with
      | ok job =>
          obtain ⟨jobs, ending, looks⟩ := ih
          exact ⟨job :: jobs, ending, .found got looks⟩
      | error e => exact ⟨[], _, .missing rest ((table.get_eq_error_iff id e).mp got).2⟩

end JobTable

namespace LooksUp
variable {table : JobTable} {ids : List JobId} {jobs : List Job} {ending : Except ShellError Unit}

theorem subset (looks : LooksUp table ids jobs ending) : jobs ⊆ table.jobs := by
  induction looks with
  | done => exact List.nil_subset _
  | missing => exact List.nil_subset _
  | found got _ ih => exact List.cons_subset.mpr ⟨(JobTable.mem_of_get got).1, ih⟩

theorem ok_iff (looks : LooksUp table ids jobs ending) :
    ending = .ok () ↔ ∀ id ∈ ids, ∃ job ∈ table.jobs, job.id = id := by
  induction looks with
  | done => exact iff_of_true rfl nofun
  | missing rest absent =>
      refine iff_of_false nofun fun all => ?_
      obtain ⟨job, mem, same⟩ := all _ List.mem_cons_self
      exact absent job mem same
  | found got _ ih =>
      rw [ih, List.forall_mem_cons]
      exact ⟨fun all => ⟨⟨_, JobTable.mem_of_get got⟩, all⟩, And.right⟩

theorem unique (looks : LooksUp table ids jobs ending) {others : List Job}
    {other : Except ShellError Unit} (looks' : LooksUp table ids others other) :
    jobs = others ∧ ending = other := by
  induction looks generalizing others other with
  | done =>
      cases looks'
      exact ⟨rfl, rfl⟩
  | missing rest absent =>
      cases looks' with
      | missing => exact ⟨rfl, rfl⟩
      | found got _ =>
          rw [JobTable.get_absent absent] at got
          cases got
  | found got _ ih =>
      cases looks' with
      | missing _ absent =>
          rw [JobTable.get_absent absent] at got
          cases got
      | found got' rest =>
          obtain ⟨rfl, rfl⟩ := ih rest
          cases got.symm.trans got'
          exact ⟨rfl, rfl⟩

/-- If no number is there twice, all numbers find all jobs. -/
theorem all (distinct : (table.jobs.map Job.id).Nodup) :
    LooksUp table (table.jobs.map Job.id) table.jobs (.ok ()) := by
  suffices every : ∀ jobs ⊆ table.jobs, LooksUp table (jobs.map Job.id) jobs (.ok ()) from
    every table.jobs (List.Subset.refl _)
  intro jobs inside
  induction jobs with
  | nil => exact .done
  | cons job rest ih =>
      obtain ⟨here, others⟩ := List.cons_subset.mp inside
      exact .found ((JobTable.get_eq_ok_iff distinct job.id job).mpr ⟨here, rfl⟩) (ih others)

theorem prints (looks : LooksUp table ids jobs ending) (write : Writer σ) (line : Job → String) :
    Prints write (ids.forM (Builtin.writeJob write table line)) (jobs.map line) ending := by
  induction looks with
  | done => exact .nothing
  | missing rest absent =>
      intro running
      rw [List.forM, ShellM.run_bind, Builtin.writeJob, JobTable.get_absent absent]
      rfl
  | found got _ ih =>
      rw [List.forM, Builtin.writeJob, got]
      exact ih.cons _

end LooksUp

/-- Lines with a newline after each are the lines with newlines between them, and one more. -/
theorem join_lines {α : Type} (line : α → String) {items : List α} (some : items ≠ []) :
    String.join (items.map fun item => line item ++ "\n") =
      "\n".intercalate (items.map line) ++ "\n" := by
  induction items with
  | nil => contradiction
  | cons item rest ih =>
      rw [List.map_cons, List.map_cons, String.join_cons]
      cases rest with
      | nil => rw [List.map_nil, List.map_nil, String.join_nil, String.append_empty,
          String.intercalate_singleton]
      | cons next more =>
          rw [ih nofun, String.intercalate_cons_of_ne_nil (by simp), String.append_assoc,
            String.append_assoc, String.append_assoc]

namespace Builtin
variable (write : Writer σ) {request : JobsRequest} {table : JobTable}

theorem writeJobs_none (all : request.ids = []) (short : request.long = false)
    (whole : request.pidsOnly = false) (none : table.jobs = []) :
    Prints write (writeJobs write request table)
      [JobTable.Listing.empty.display ++ "\n"] (.ok ()) := by
  have empty : table.list = .empty := by rw [JobTable.list, none]; rfl
  unfold writeJobs
  rw [all, empty, short, whole]
  exact .text _

theorem writeJobs_all (all : request.ids = [])
    (some : table.jobs ≠ [] ∨ request.long = true ∨ request.pidsOnly = true) :
    Prints write (writeJobs write request table)
      (table.jobs.map fun job => request.line job ++ "\n") (.ok ()) := by
  unfold writeJobs JobTable.list
  rw [all]
  cases jobs : table.jobs with
  | nil =>
      have flagged : (!request.long && !request.pidsOnly) = false := by
        rcases some with some | long | pids
        · contradiction
        · rw [long]; rfl
        · rw [pids, Bool.not_true, Bool.and_false]
      dsimp only [List.isEmpty_nil, if_true]
      rw [flagged]
      exact .nothing
  | cons job rest => exact .forM (job :: rest) fun job => request.line job ++ "\n"

theorem writeJobs_asked {found : List Job} {ending : Except ShellError Unit}
    (asked : request.ids ≠ []) (looks : LooksUp table request.ids found ending) :
    Prints write (writeJobs write request table)
      (found.map fun job => request.line job ++ "\n") ending := by
  unfold writeJobs
  rw [if_neg (by simpa using asked)]
  exact looks.prints write fun job => request.line job ++ "\n"

/-- Without numbers all jobs are shown. What is written is the listing unless there are flags. -/
theorem writeJobs_unasked (all : request.ids = []) :
    ∃ texts, Prints write (writeJobs write request table) texts (.ok ()) ∧
      (request.pidsOnly = true → texts = table.jobs.map fun job => toString job.pid ++ "\n") ∧
      (request.pidsOnly = false → request.long = true →
        texts = table.jobs.map fun job => job.displayLong ++ "\n") ∧
      (request.pidsOnly = false → request.long = false →
        String.join texts = table.list.display ++ "\n") := by
  by_cases some : table.jobs ≠ [] ∨ request.long = true ∨ request.pidsOnly = true
  · refine ⟨_, writeJobs_all write all some, fun pids => ?_, fun noPids long => ?_,
      fun noPids short => ?_⟩
    · simp only [JobsRequest.line, pids, if_true]
    · simp only [JobsRequest.line, noPids, long, Bool.false_eq_true, if_false, if_true]
    · have jobs : table.jobs ≠ [] := by simpa [noPids, short] using some
      have listed : table.list = .rows table.jobs := by
        rw [JobTable.list, if_neg (by simpa using jobs)]
      simp only [JobsRequest.line, noPids, short, Bool.false_eq_true, if_false]
      rw [join_lines Job.display jobs, listed, JobTable.Listing.display]
  · simp only [not_or, not_not, Bool.not_eq_true] at some
    obtain ⟨none, short, noPids⟩ := some
    refine ⟨_, writeJobs_none write all short noPids none, fun pids => ?_, fun _ long => ?_,
      fun _ _ => ?_⟩
    · rw [noPids] at pids
      cases pids
    · rw [short] at long
      cases long
    · rw [String.join_cons, String.join_nil, String.append_empty, JobTable.list, none]
      rfl

/-- The numbers of all jobs and no numbers come to the same. -/
theorem writeJobs_each (request : JobsRequest) (some : table.jobs ≠ [])
    (distinct : (table.jobs.map Job.id).Nodup) (running : Running σ) :
    (writeJobs write { request with ids := table.jobs.map Job.id } table).run running =
      (writeJobs write { request with ids := [] } table).run running := by
  have asked : table.jobs.map Job.id ≠ [] := by simpa using some
  have byNumber : Prints write
      (writeJobs write { request with ids := table.jobs.map Job.id } table) _ _ :=
    writeJobs_asked write asked (.all distinct)
  have inTurn : Prints write (writeJobs write { request with ids := [] } table) _ _ :=
    writeJobs_all write rfl (.inl some)
  exact byNumber.run_eq inTurn running

theorem runJobs_shell (args : List String) (running : Running σ) :
    ((runJobs write args).run running).2.shell = running.shell := by
  unfold runJobs
  cases JobsRequest.ofArgs args with
  | error e => rfl
  | ok request =>
      show ((writeJobs write request running.shell.jobs).run running).2.shell = _
      by_cases all : request.ids = []
      · obtain ⟨texts, prints, -⟩ := writeJobs_unasked write all
        exact prints.shell running
      · obtain ⟨found, ending, looks⟩ := running.shell.jobs.exists_looksUp request.ids
        exact (writeJobs_asked write all looks).shell running

end Builtin

/-- A line that shows a job, in any of the three forms, and does not say that it is done. -/
inductive RunningLine (job : Job) : String → Prop
  | pid : RunningLine job (toString job.pid)
  | long : RunningLine job
      ("[" ++ toString job.id ++ "]  " ++ toString job.pid ++ " Running    " ++ job.command)
  | short : RunningLine job ("[" ++ toString job.id ++ "]  Running    " ++ job.command)

theorem runningLine {job : Job} (running : job.status = .running)
    (request : Builtin.JobsRequest) : RunningLine job (request.line job) := by
  unfold Builtin.JobsRequest.line
  split
  · exact .pid
  split
  · have line : job.displayLong =
        "[" ++ toString job.id ++ "]  " ++ toString job.pid ++ " Running    " ++ job.command := by
      simp only [Job.displayLong, running, JobStatus.text, String.append_assoc]
      rfl
    rw [line]
    exact .long
  · have line : job.display = "[" ++ toString job.id ++ "]  Running    " ++ job.command := by
      simp only [Job.display, running, JobStatus.text, String.append_assoc]
      rfl
    rw [line]
    exact .short

namespace JobTable

/-- A sweep drops the jobs that it finds ended, so none stays in the table that is done. -/
theorem step_running {table : JobTable} (all : ∀ job ∈ table.jobs, job.status = .running) (s : σ)
    (event : JobEvent σ) : ∀ job ∈ (table.step s event).2.1.jobs, job.status = .running := by
  intro job mem
  cases event with
  | register pid command =>
      rcases List.mem_append.mp mem with old | new
      · exact all job old
      · cases List.mem_singleton.mp new
        rfl
  | reap probe write =>
      have kept : (table.reap probe write s).2.1.jobs =
          survivors table.jobs (table.reapCalls probe write s) :=
        congrArg jobs (table.reap_table probe write s)
      change job ∈ (table.reap probe write s).2.1.jobs at mem
      rw [kept] at mem
      obtain ⟨⟨job, call⟩, here, rfl⟩ := List.mem_map.mp mem
      exact all job (List.of_mem_zip (List.mem_filter.mp here).1).1

theorem run_running {table : JobTable} (all : ∀ job ∈ table.jobs, job.status = .running) (s : σ)
    (events : List (JobEvent σ)) :
    ∀ job ∈ (table.run s events).2.1.jobs, job.status = .running := by
  induction events generalizing table s with
  | nil => exact all
  | cons event rest ih => exact ih (step_running all s event) (table.step s event).2.2

theorem run_distinct (events : List (JobEvent σ)) (s : σ)
    (few : (events.filterMap JobEvent.start?).length < UInt32.size) :
    ((({} : JobTable).run s events).2.1.jobs.map Job.id).Nodup := by
  have follows := follows_run follows_empty events s (by
    rwa [show (registered []).length = 0 from rfl, Nat.zero_add])
  exact follows.distinct_jobs

end JobTable

/-- Showing the jobs agrees with the listing of the table. It changes nothing of the shell and asks
about no process. Without numbers it writes the listing with a newline behind it, or with flags a
line for each job. With numbers it writes the same lines for the jobs that have them, in turn, up to
the first number that no job has. So the numbers of all jobs and no numbers come to the same, if
there are jobs and no number is there twice. A table that comes of starts and sweeps has no number
twice unless the numbers have run out, and none of its lines says that a job is done. -/
theorem jobs_shows_listing (h : Host σ) (write : Writer σ) :
    (∀ (running : Running σ) (args : List String) (calls : List ProbeCall),
      let (result, next) := (Builtin.jobs.run h write args).run running
      next.shell = running.shell ∧
      (Builtin.jobs.run h.recorded (Writer.recorded write) args).run (running.beside calls) =
        (result, next.beside calls) ∧
      ∀ request, Builtin.JobsRequest.ofArgs args = .ok request →
        (Builtin.writeJobs write request running.shell.jobs).run running = (result, next)) ∧
    (∀ (request : Builtin.JobsRequest) (table : JobTable), request.ids = [] →
      ∃ texts, Prints write (Builtin.writeJobs write request table) texts (.ok ()) ∧
        (request.pidsOnly = true → texts = table.jobs.map fun job => toString job.pid ++ "\n") ∧
        (request.pidsOnly = false → request.long = true →
          texts = table.jobs.map fun job => job.displayLong ++ "\n") ∧
        (request.pidsOnly = false → request.long = false →
          String.join texts = table.list.display ++ "\n")) ∧
    (∀ (request : Builtin.JobsRequest) (table : JobTable), request.ids ≠ [] →
      ∃ found ending, LooksUp table request.ids found ending ∧ found ⊆ table.jobs ∧
        Prints write (Builtin.writeJobs write request table)
          (found.map fun job => request.line job ++ "\n") ending ∧
        (ending = .ok () ↔ ∀ id ∈ request.ids, ∃ job ∈ table.jobs, job.id = id)) ∧
    (∀ (request : Builtin.JobsRequest) (table : JobTable), table.jobs ≠ [] →
      (table.jobs.map Job.id).Nodup → ∀ running,
      (Builtin.writeJobs write { request with ids := table.jobs.map Job.id } table).run running =
        (Builtin.writeJobs write { request with ids := [] } table).run running) ∧
    (∀ {τ : Type} (events : List (JobEvent τ)) (t : τ),
      let table := (({} : JobTable).run t events).2.1
      ((events.filterMap JobEvent.start?).length < UInt32.size →
        (table.jobs.map Job.id).Nodup) ∧
      ∀ job ∈ table.jobs, ∀ request : Builtin.JobsRequest, RunningLine job (request.line job)) := by
  refine ⟨fun running args calls => ⟨?_, ?_, fun request asked => ?_⟩,
    fun request table all => Builtin.writeJobs_unasked write all,
    fun request table asked => ?_, fun request table some distinct running => ?_,
    fun events t => ⟨JobTable.run_distinct events t, fun job mem request => ?_⟩⟩
  · exact Builtin.runJobs_shell write args running
  · exact (Builtin.quiet_run h.shadows_recorded (fun _ _ calls => .same calls _) args
      .jobs).same_beside running calls
  · show _ = (Builtin.runJobs write args).run running
    unfold Builtin.runJobs
    rw [asked]
    rfl
  · obtain ⟨found, ending, looks⟩ := table.exists_looksUp request.ids
    exact ⟨found, ending, looks, looks.subset, Builtin.writeJobs_asked write asked looks,
      looks.ok_iff⟩
  · exact Builtin.writeJobs_each write request some distinct running
  · exact runningLine (JobTable.run_running (List.forall_mem_nil _) t events job mem) request

def threeStarts : List (JobEvent Unit) :=
  [.register 7 "a", .register 8 "b", .register 9 "c",
    .reap (fun pid s => (.ok (if pid = 8 then .exited else .alive), s)) fun _ s => (.ok (), s)]

def attendant : Running (Bool × List String) where
  shell := { visitor.shell with jobs := (({} : JobTable).run () threeStarts).2.1 }
  host := visitor.host

/-- One number twice and then that of the job that ended: the failure comes after two equal lines.
The numbers of both jobs that are left and no numbers come to the same. -/
theorem jobs_shows_listing_ended :
    let write := twoRooms.write Handle.output
    let jobs := fun args => (Builtin.jobs.run twoRooms write args).run attendant
    (threeStarts.filterMap JobEvent.start?).length < UInt32.size ∧
    attendant.shell.jobs.jobs ≠ [] ∧ (attendant.shell.jobs.jobs.map Job.id).Nodup ∧
    (jobs ["3", "3", "2", "1"]).1 = .error (.failed (.jobNotFound 2)) ∧
    (jobs ["3", "3", "2", "1"]).2.host.2 = ["[3]  Running    c\n", "[3]  Running    c\n"] ∧
    jobs ["1", "3"] = jobs [] ∧ (jobs []).2.shell = attendant.shell := by
  intro write jobs
  obtain ⟨builtin, -, asked, all, reached⟩ := jobs_shows_listing twoRooms write
  have few : (threeStarts.filterMap JobEvent.start?).length < UInt32.size := by decide
  have distinct := (reached threeStarts ()).1 few
  have some : attendant.shell.jobs.jobs ≠ [] := by decide +kernel
  have ran args request (read : Builtin.JobsRequest.ofArgs args = .ok request) :
      (Builtin.writeJobs write request attendant.shell.jobs).run attendant = jobs args :=
    (builtin attendant args []).2.2 request read
  have twice : (jobs ["3", "3", "2", "1"]).1 = .error (.failed (.jobNotFound 2)) ∧
      (jobs ["3", "3", "2", "1"]).2.host.2 = ["[3]  Running    c\n", "[3]  Running    c\n"] := by
    obtain ⟨found, ending, looks, -, prints, -⟩ :=
      asked { ids := [3, 3, 2, 1] } attendant.shell.jobs (by decide)
    have third : attendant.shell.jobs.get 3 = .ok { id := 3, pid := 9, command := "c" } := by rfl
    have ended : ∀ job ∈ attendant.shell.jobs.jobs, job.id ≠ 2 := by decide +kernel
    obtain ⟨rfl, rfl⟩ := looks.unique (.found third (.found third (.missing [1] ended)))
    rw [← ran ["3", "3", "2", "1"] { ids := [3, 3, 2, 1] } (by decide +kernel), prints attendant]
    exact ⟨by decide +kernel, by decide +kernel⟩
  refine ⟨few, some, distinct, twice.1, twice.2, ?_, (builtin attendant [] []).1⟩
  rw [← ran ["1", "3"] { ids := [1, 3] } (by decide +kernel), ← ran [] {} (by decide +kernel)]
  exact all {} attendant.shell.jobs some distinct attendant

end LineShell

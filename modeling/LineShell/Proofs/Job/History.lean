import LineShell.Proofs.Job.Sweep
import Mathlib.Data.List.Nodup

/-!
A job table over a whole run. A run is any mix of starts and sweeps, each sweep with a probe and a
writer of its own; what is seen of it is a history of records. The table is at every moment what
the history says: the jobs started so far without those that some sweep found ended.
-/
namespace LineShell
variable {σ : Type}

inductive JobEvent (σ : Type) where
  | register (pid : ProcessId) (command : String)
  | reap (probe : Probe σ) (write : Writer σ)

def JobEvent.start? : JobEvent σ → Option (ProcessId × String)
  | .register pid command => some (pid, command)
  | .reap .. => none

/-- What is seen of an event: the id given out for a start, or the jobs that a sweep found in the
table and the calls it made. -/
inductive JobRecord where
  | registered (id : JobId) (pid : ProcessId) (command : String)
  | swept (jobs : List Job) (calls : List ProbeCall)

namespace JobRecord

def registered? : JobRecord → Option Job
  | .registered id pid command => some { id, pid, command }
  | .swept .. => none

def ended : JobRecord → List JobId
  | .registered .. => []
  | .swept jobs calls => JobTable.exits jobs calls

end JobRecord

def registered (history : List JobRecord) : List Job :=
  history.filterMap JobRecord.registered?

def ended (history : List JobRecord) : List JobId :=
  history.flatMap JobRecord.ended

def present (history : List JobRecord) : List Job :=
  (registered history).filter (·.id ∉ ended history)

@[simp] theorem registered_append (a b : List JobRecord) :
    registered (a ++ b) = registered a ++ registered b :=
  List.filterMap_append

@[simp] theorem ended_append (a b : List JobRecord) : ended (a ++ b) = ended a ++ ended b :=
  List.flatMap_append

theorem present_subset {history : List JobRecord} {job : Job} (h : job ∈ present history) :
    job ∈ registered history ∧ job.id ∉ ended history := by
  simpa [present] using h

theorem status_registered {history : List JobRecord} {job : Job} (h : job ∈ registered history) :
    job.status = .running := by
  obtain ⟨record, -, made⟩ := List.mem_filterMap.mp h
  cases record with
  | registered id pid command =>
      cases made
      rfl
  | swept jobs calls => cases made

namespace JobTable

def step (table : JobTable) (s : σ) : JobEvent σ → JobRecord × JobTable × σ
  | .register pid command =>
      let (job, next) := table.register pid command
      (.registered job.id pid command, next, s)
  | .reap probe write =>
      let (_, next, s') := table.reap probe write s
      (.swept table.jobs (table.reapCalls probe write s), next, s')

def run (table : JobTable) (s : σ) : List (JobEvent σ) → List JobRecord × JobTable × σ
  | [] => ([], table, s)
  | event :: rest =>
      let (record, next, s) := table.step s event
      let (history, last, s) := next.run s rest
      (record :: history, last, s)

structure Follows (history : List JobRecord) (table : JobTable) : Prop where
  issued : table.issued.toNat = (registered history).length
  numbered : (registered history).map (·.id.toNat) = List.range' 1 (registered history).length
  known : ∀ id ∈ ended history, id.toNat ≤ (registered history).length
  jobs : table.jobs = present history
  sweeps : ∀ before jobs calls after, history = before ++ .swept jobs calls :: after →
    jobs = present before ∧ calls.map ProbeCall.pid = jobs.map Job.pid

namespace Follows
variable {history : List JobRecord} {table : JobTable}

theorem distinct (h : Follows history table) : ((registered history).map Job.id).Nodup := by
  have numbers : ((registered history).map (·.id.toNat)).Nodup := by
    rw [h.numbered]
    exact List.nodup_range'
  have through : (registered history).map (·.id.toNat) =
      ((registered history).map Job.id).map UInt32.toNat := by rw [List.map_map]; rfl
  rw [through] at numbers
  exact List.Nodup.of_map _ numbers

theorem distinct_jobs (h : Follows history table) : (table.jobs.map Job.id).Nodup := by
  rw [h.jobs]
  exact h.distinct.sublist (List.filter_sublist.map _)

theorem id_le (h : Follows history table) {job : Job} (mem : job ∈ registered history) :
    job.id.toNat ≤ (registered history).length := by
  have number : job.id.toNat ∈ List.range' 1 (registered history).length :=
    h.numbered ▸ List.mem_map_of_mem mem
  rw [List.mem_range'_1] at number
  omega

end Follows

theorem snoc_eq_append_cons {α : Type} {front before after : List α} {last middle : α}
    (h : front ++ [last] = before ++ middle :: after) :
    (front = before ∧ last = middle) ∨ ∃ rest, front = before ++ middle :: rest := by
  rcases List.eq_nil_or_concat after with rfl | ⟨rest, final, rfl⟩
  · obtain ⟨fronts, lasts⟩ := List.append_inj' h rfl
    exact .inl ⟨fronts, (List.cons.inj lasts).1⟩
  · rw [List.concat_eq_append, ← List.cons_append, ← List.append_assoc] at h
    exact .inr ⟨rest, (List.append_inj' h rfl).1⟩

theorem follows_register {history : List JobRecord} {table : JobTable}
    (h : Follows history table) (room : (registered history).length + 1 < UInt32.size)
    (pid : ProcessId) (command : String) :
    Follows (history ++ [.registered (table.issued + 1) pid command])
      (table.register pid command).2 := by
  have next : (table.issued + 1).toNat = (registered history).length + 1 := by
    rw [UInt32.toNat_add, h.issued]
    exact Nat.mod_eq_of_lt room
  have fresh : table.issued + 1 ∉ ended history := fun mem => by
    have := h.known _ mem
    omega
  have started : registered [.registered (table.issued + 1) pid command] =
    [{ id := table.issued + 1, pid, command }] := rfl
  have none_ended : ended [.registered (table.issued + 1) pid command] = [] := rfl
  constructor
  · rw [registered_append, started, List.length_append]
    exact next
  · rw [registered_append, started, List.map_append, h.numbered, List.length_append]
    simp [next, List.range'_1_concat, Nat.add_comm]
  · intro id mem
    rw [ended_append, none_ended, List.append_nil] at mem
    rw [registered_append, started, List.length_append]
    exact Nat.le_add_right_of_le (h.known id mem)
  · rw [present, registered_append, ended_append, started, none_ended, List.append_nil,
      List.filter_append, List.filter_cons_of_pos (by simpa using fresh)]
    simp only [register, h.jobs]
    rfl
  · intro before jobs calls after eq
    rcases snoc_eq_append_cons eq with ⟨-, same⟩ | ⟨rest, same⟩
    · cases same
    · exact h.sweeps before jobs calls rest same

theorem follows_swept {history : List JobRecord} {table : JobTable} (h : Follows history table)
    {calls : List ProbeCall} (pids : calls.map ProbeCall.pid = table.jobs.map Job.pid) :
    Follows (history ++ [.swept table.jobs calls])
      { table with jobs := survivors table.jobs calls } := by
  have unchanged : registered (history ++ [.swept table.jobs calls]) = registered history := by
    rw [registered_append]
    exact List.append_nil _
  have gone : ended (history ++ [.swept table.jobs calls]) =
      ended history ++ exits table.jobs calls := by
    rw [ended_append]
    exact congrArg _ (List.append_nil _)
  have whole : calls.length = table.jobs.length := by
    simpa using congrArg List.length pids
  constructor
  · rw [unchanged]
    exact h.issued
  · rw [unchanged]
    exact h.numbered
  · intro id mem
    rw [gone, List.mem_append] at mem
    rw [unchanged]
    rcases mem with mem | mem
    · exact h.known id mem
    · obtain ⟨job, inside, rfl⟩ := List.mem_map.mp (mem_of_mem_exits mem)
      exact h.id_le (present_subset (h.jobs ▸ inside)).1
  · rw [present, unchanged, gone]
    show survivors table.jobs calls = _
    rw [survivors_eq_filter h.distinct_jobs whole, h.jobs, present, List.filter_filter]
    apply List.filter_congr
    intro job _
    rw [Bool.and_comm]
    simp
  · intro before jobs seen after eq
    rcases snoc_eq_append_cons eq with ⟨rfl, same⟩ | ⟨rest, same⟩
    · cases same
      exact ⟨h.jobs, pids⟩
    · exact h.sweeps before jobs seen rest same

theorem follows_reap {history : List JobRecord} {table : JobTable} (h : Follows history table)
    (probe : Probe σ) (write : Writer σ) (s : σ) :
    Follows (history ++ [.swept table.jobs (table.reapCalls probe write s)])
      (table.reap probe write s).2.1 := by
  rw [table.reap_table]
  exact follows_swept h (table.reapCalls_pids probe write s)

theorem follows_run {history : List JobRecord} {table : JobTable} (h : Follows history table)
    (events : List (JobEvent σ)) (s : σ)
    (room : (registered history).length + (events.filterMap JobEvent.start?).length < UInt32.size) :
    Follows (history ++ (table.run s events).1) (table.run s events).2.1 := by
  induction events generalizing history table s with
  | nil => rwa [run, List.append_nil]
  | cons event rest ih =>
      cases event with
      | register pid command =>
          change _ + ((pid, command) :: rest.filterMap JobEvent.start?).length < _ at room
          rw [List.length_cons] at room
          have next := ih (follows_register h (by omega) pid command) s (by
            rw [registered_append, List.length_append]
            show (registered history).length + 1 + _ < _
            omega)
          rwa [List.append_assoc] at next
      | reap probe write =>
          rw [List.filterMap_cons_none rfl] at room
          have next := ih (follows_reap h probe write s) (table.reap probe write s).2.2 (by
            rw [registered_append, List.length_append]
            exact room)
          rwa [List.append_assoc] at next

theorem follows_empty : Follows [] {} :=
  ⟨rfl, rfl, nofun, rfl, fun before _ _ _ eq => by cases before <;> contradiction⟩

/-- The starts of a run are recorded with the process and the text they were given. -/
theorem registered_run (table : JobTable) (s : σ) (events : List (JobEvent σ)) :
    (registered (table.run s events).1).map (fun job => (job.pid, job.command)) =
      events.filterMap JobEvent.start? := by
  induction events generalizing table s with
  | nil => rfl
  | cons event rest ih =>
      cases event with
      | register pid command =>
          exact congrArg ((pid, command) :: ·) (ih (table.register pid command).2 s)
      | reap probe write =>
          exact ih (table.reap probe write s).2.1 (table.reap probe write s).2.2

theorem get_eq_ok_iff {table : JobTable} (distinct : (table.jobs.map Job.id).Nodup) (id : JobId)
    (job : Job) : table.get id = .ok job ↔ job ∈ table.jobs ∧ job.id = id := by
  unfold get
  split
  · next found h =>
      have match_id : found.id = id := by simpa using List.find?_some h
      have inside := List.mem_of_find?_eq_some h
      constructor
      · intro same
        cases same
        exact ⟨inside, match_id⟩
      · rintro ⟨mem, rfl⟩
        rw [List.inj_on_of_nodup_map distinct inside mem match_id]
  · next h =>
      refine ⟨nofun, fun ⟨mem, same⟩ => ?_⟩
      exact absurd same (by simpa using List.find?_eq_none.mp h job mem)

theorem get_eq_error_iff (table : JobTable) (id : JobId) (e : ShellError) :
    table.get id = .error e ↔ e = .jobNotFound id ∧ ∀ job ∈ table.jobs, job.id ≠ id := by
  unfold get
  split
  · next found h =>
      have match_id : found.id = id := by simpa using List.find?_some h
      exact ⟨nofun, fun ⟨_, absent⟩ => absurd match_id (absent _ (List.mem_of_find?_eq_some h))⟩
  · next h =>
      have absent : ∀ job ∈ table.jobs, job.id ≠ id := by simpa using List.find?_eq_none.mp h
      exact ⟨fun same => ⟨(Except.error.inj same).symm, absent⟩, fun ⟨same, _⟩ => by rw [same]⟩

/-- The table of any run: numbers count the starts and never come twice, the jobs are those that
the history leaves, each sweep asks about just the jobs of that moment, once each and in order, and
a look-up finds a job by its number if it is there. -/
theorem run_follows_history (events : List (JobEvent σ)) (s : σ)
    (few : (events.filterMap JobEvent.start?).length < UInt32.size) :
    let history := (({} : JobTable).run s events).1
    let table := (({} : JobTable).run s events).2.1
    (registered history).map (fun job => (job.pid, job.command)) =
      events.filterMap JobEvent.start? ∧
    (registered history).map (·.id.toNat) =
      List.range' 1 (events.filterMap JobEvent.start?).length ∧
    ((registered history).map Job.id).Nodup ∧
    table.jobs = present history ∧
    (∀ job ∈ table.jobs, job.status = .running) ∧
    (∀ before jobs calls after, history = before ++ .swept jobs calls :: after →
      jobs = present before ∧ calls.map ProbeCall.pid = jobs.map Job.pid ∧
      ∀ job ∈ jobs, job.id ∉ ended before) ∧
    (∀ id job, table.get id = .ok job ↔ job ∈ table.jobs ∧ job.id = id) ∧
    (∀ id e, table.get id = .error e ↔
      e = .jobNotFound id ∧ ∀ job ∈ table.jobs, job.id ≠ id) := by
  intro history table
  have follows : Follows history table := follows_run follows_empty events s (by
    rwa [show (registered []).length = 0 from rfl, Nat.zero_add])
  have starts := registered_run {} s events
  have count : (registered history).length = (events.filterMap JobEvent.start?).length := by
    rw [← starts, List.length_map]
  have distinct : (table.jobs.map Job.id).Nodup := by
    rw [follows.jobs]
    exact follows.distinct.sublist (List.filter_sublist.map _)
  refine ⟨starts, count ▸ follows.numbered, follows.distinct, follows.jobs, ?_, ?_,
    get_eq_ok_iff distinct, get_eq_error_iff table⟩
  · intro job mem
    exact status_registered (present_subset (follows.jobs ▸ mem)).1
  · intro before jobs calls after eq
    obtain ⟨exact_jobs, pids⟩ := follows.sweeps before jobs calls after eq
    exact ⟨exact_jobs, pids, fun job mem => (present_subset (exact_jobs ▸ mem)).2⟩

/-- Two jobs share a process; the first call finds it ended, the second cannot be made, and nothing
can be written. -/
def sharedProcess : List (JobEvent Nat) :=
  [.register 7 "a", .register 7 "b",
    .reap (fun _ n => (if n = 0 then .ok .exited else .error .closed, n + 1))
      (fun _ n => (.error .closed, n)),
    .register 7 "c"]

theorem run_sharedProcess :
    (sharedProcess.filterMap JobEvent.start?).length < UInt32.size ∧
    (({} : JobTable).run 0 sharedProcess).2.1.jobs =
      [{ id := 2, pid := 7, command := "b" }, { id := 3, pid := 7, command := "c" }] ∧
    (({} : JobTable).run 0 sharedProcess).2.1.get 1 = .error (.jobNotFound 1) := by
  have few : (sharedProcess.filterMap JobEvent.start?).length < UInt32.size := by decide
  obtain ⟨-, -, -, jobs, -, -, -, absent⟩ := run_follows_history sharedProcess 0 few
  have left : (({} : JobTable).run 0 sharedProcess).2.1.jobs =
      [{ id := 2, pid := 7, command := "b" }, { id := 3, pid := 7, command := "c" }] := by
    rw [jobs]
    rfl
  refine ⟨few, left, (absent 1 _).mpr ⟨rfl, ?_⟩⟩
  rw [left]
  decide

end JobTable
end LineShell

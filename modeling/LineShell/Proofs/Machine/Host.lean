import LineShell.Machine.AsHost
import LineShell.Machine.Setup
import LineShell.Proofs.Machine.Storage
import LineShell.Proofs.Shell.Code
import LineShell.Proofs.Shell.Places

/-!
The machine as a system of which the theory's assumptions are true. Whoever waits for a program gets
the status of a process that has ended. Where every directory is found by its path, the shell can go
back to wherever it was, for what it writes moves nothing. A line that is read is gone from the
input, and a history that is saved is read as it was written. These last two are about single
operations: programs may write to what the shell reads, and may remove what it saves.
-/
namespace LineShell.Machine

theorem End.ended (how : End) : ∃ code, how.status.Ended code := by
  cases how with
  | exited code => exact ⟨code, .exited code.isLt⟩
  | killed signal known =>
      exact ⟨128 + signal, .killed false known.1 (Nat.lt_trans known.2 (by decide))⟩

theorem status?_ended {m : Machine} {pid : ProcessId} {status : WaitStatus}
    (known : m.status? pid = some status) : ∃ code, status.Ended code := by
  obtain ⟨how, -, rfl⟩ := Option.map_eq_some_iff.mp known
  exact how.ended

theorem host_awaitsEnds : host.AwaitsEnds := by
  intro program m status next ran
  have killed : ∃ code, (WaitStatus.ofSignal Signal.kill).Ended code :=
    (End.killed Signal.kill (by decide)).ended
  change forShell (run program) m = _ at ran
  unfold forShell run at ran
  split at ran
  · cases ran
  split at ran
  · cases ran
  · next pid m _ =>
      dsimp only at ran
      split at ran
      · cases ran
      · cases ran
        cases known : (m.await pid).status? pid with
        | none => exact killed
        | some status => exact status?_ended known

section
variable {start m : Machine}

def Writes (write : Writer Machine) : Prop :=
  ∃ handle, write = host.write handle

theorem write_keeps {write : Writer Machine} (writes : Writes write) (text : String) (m : Machine) :
    (write text m).2.storage.tree.shape = m.storage.tree.shape ∧
      (write text m).2.directory = m.directory := by
  obtain ⟨handle, rfl⟩ := writes
  change (forShell _ m).2.storage.tree.shape = _ ∧ (forShell _ m).2.directory = _
  unfold forShell
  split
  · exact ⟨rfl, rfl⟩
  · exact ⟨m.storage.write_shape handle _, rfl⟩

theorem enterDir_eq {path : String} {next : Machine} (entered : host.enterDir path m = .ok next) :
    ∃ directory, m.storage.tree.find m.viewpoint path = .ok directory ∧
      m.storage.tree.isDirectory directory = true ∧ next = { m with directory } := by
  change enterDir path m = _ at entered
  unfold enterDir at entered
  split at entered
  · cases entered
  · next directory found =>
      split at entered
      · next isDirectory =>
          cases entered
          exact ⟨directory, found, isDirectory, rfl⟩
      · cases entered

theorem later_shape (later : host.Later Writes start m) :
    m.storage.tree.shape = start.storage.tree.shape := by
  induction later with
  | now => rfl
  | entered path _ entered ih =>
      obtain ⟨directory, -, -, rfl⟩ := enterDir_eq entered
      exact ih
  | wrote text _ writes ih => exact (write_keeps writes text _).1.trans ih

theorem currentDir_eq_ok_iff {path : String} :
    host.currentDir m = .ok path ↔ m.storage.tree.pathOf? m.directory = some path := by
  change currentDir m = _ ↔ _
  unfold currentDir
  cases m.storage.tree.pathOf? m.directory <;> simp

/-- Where every directory is found by its path, directories stay where they are for a shell that
only goes about and writes. -/
theorem host_steady (charted : start.storage.tree.Charted) : host.Steady Writes start where
  writes m _ write writes text := by
    obtain ⟨shape, directory⟩ := write_keeps writes text m
    change currentDir _ = currentDir m
    rw [currentDir, currentDir, directory, ← FileTree.pathOf?_shape, shape, FileTree.pathOf?_shape]
  lands m later path next entered := by
    obtain ⟨directory, -, isDirectory, rfl⟩ := enterDir_eq entered
    obtain ⟨path, named, -⟩ := charted.of_shape (later_shape later) directory isDirectory
    exact ⟨path, currentDir_eq_ok_iff.mpr named⟩
  returns m later path here t later' := by
    have charted := charted.of_shape (later_shape later)
    have shape := later_shape later'
    have named := currentDir_eq_ok_iff.mp here
    have found := charted.find named t.viewpoint
    have isDirectory := FileTree.isDirectory_of_pathOf? named
    rw [← FileTree.find_shape, ← shape, FileTree.find_shape] at found
    rw [← FileTree.isDirectory_shape, ← shape, FileTree.isDirectory_shape] at isDirectory
    rw [← FileTree.pathOf?_shape, ← shape, FileTree.pathOf?_shape] at named
    refine ⟨{ t with directory := m.directory }, ?_, currentDir_eq_ok_iff.mpr named⟩
    change enterDir path t = _
    rw [enterDir, found]
    exact if_pos isDirectory

end

theorem standard_charted (input : Bytes) :
    (standard "/root" (some input)).storage.tree.Charted := by
  have empty : (standard "/root" (some [])).storage.tree.Charted := by decide +kernel
  refine empty.of_shape ?_
  simp only [standard, FileTree.addNode, FileTree.shape, Array.map_push, Node.shape]

/-- A machine as it comes, whatever there is to read on it. -/
theorem standard_steady (input : Bytes) : host.Steady Writes (standard "/root" (some input)) :=
  host_steady (standard_charted input)

/-- What is still to be read on a machine: what the shell has taken and not used, and what is ahead
in its input. -/
def coming (m : Machine) : Bytes :=
  m.unread ++ (m.storage.ahead Handle.input).toOption.getD []

def firstLine (bytes : Bytes) : Bytes :=
  bytes.take ((bytes.takeWhile (· ≠ 10)).length + 1)

theorem coming_eq {m : Machine} {ahead : Bytes}
    (readable : m.storage.ahead Handle.input = .ok ahead) : m.coming = m.unread ++ ahead := by
  rw [coming, readable]
  rfl

/-- Whole blocks are taken, and enough of them. -/
theorem le_blocks (missing : Nat) :
    missing ≤ (missing + blockSize - 1) / blockSize * blockSize := by
  unfold blockSize
  omega

/-- A line that is read stood at the beginning of what was to come, and the rest is still to come.
Only the end of the input is read where nothing was to come. -/
theorem readLine_takes {m : Machine} {ahead : Bytes}
    (readable : m.storage.ahead Handle.input = .ok ahead) :
    m.coming = firstLine m.coming ++ (readLine m).2.coming ∧
    (readLine m).1 = if m.coming = [] then .ok none else
      match Bytes.text? (firstLine m.coming) with
      | some text => .ok (some text)
      | none => .error .notUtf8 := by
  rw [firstLine, coming_eq readable, readLine, readable]
  dsimp only
  generalize lengthIs : ((m.unread ++ ahead).takeWhile (· ≠ 10)).length + 1 = length
  have enough := le_blocks (length - m.unread.length)
  generalize (length - m.unread.length + blockSize - 1) / blockSize * blockSize = count at enough ⊢
  have held : m.unread ++ ahead = (m.unread ++ ahead.take count) ++ ahead.drop count := by
    rw [List.append_assoc, List.take_append_drop]
  have line : (m.unread ++ ahead).take length = (m.unread ++ ahead.take count).take length := by
    rw [List.take_append, List.take_append, List.take_take, Nat.min_eq_left (by omega)]
  have nothing : m.unread ++ ahead.take count = [] ↔ m.unread ++ ahead = [] := by
    have := congrArg (·.length) line
    simp only [List.length_take] at this
    rw [← List.length_eq_zero_iff, ← List.length_eq_zero_iff]
    omega
  have left := Storage.ahead_skip (ahead.take count).length readable
  have rest : ahead.drop (ahead.take count).length = ahead.drop count := by
    rw [List.length_take, ← List.drop_eq_drop_min]
  simp only [onStorage, Storage.read, readable, Except.toOption, Option.getD_some, line, nothing]
  have next (m' : Machine) (unread : m'.unread = (m.unread ++ ahead.take count).drop length)
      (storage : m'.storage = m.storage.skip Handle.input (ahead.take count).length) :
      m.unread ++ ahead = (m.unread ++ ahead.take count).take length ++ m'.coming := by
    rw [coming_eq (storage ▸ left), unread, rest, held, ← List.append_assoc,
      List.take_append_drop]
  split
  · exact ⟨next _ rfl rfl, rfl⟩
  · cases Bytes.text? ((m.unread ++ ahead.take count).take length) with
    | some text => exact ⟨next _ rfl rfl, rfl⟩
    | none => exact ⟨next _ rfl rfl, rfl⟩

theorem firstLine_ne_nil {bytes : Bytes} (some : bytes ≠ []) : firstLine bytes ≠ [] := by
  rw [firstLine, ne_eq, List.take_eq_nil_iff]
  exact fun h => h.elim (Nat.succ_ne_zero _) some

/-- Where the input can be read, a turn of the loop that needs no prompt uses up a line. -/
theorem host_readLine {m : Machine} {ahead : Bytes}
    (readable : m.storage.ahead Handle.input = .ok ahead) (prompt : String) :
    (host.readLine false prompt m).1 = .ok none ∨
      (host.readLine false prompt m).2.coming.length < m.coming.length := by
  change (if m.shellEnded.isSome then (.ok none, m) else promptLine false prompt m).1 = _ ∨
    (if m.shellEnded.isSome then (.ok none, m) else promptLine false prompt m).2.coming.length < _
  by_cases ended : m.shellEnded.isSome = true
  · exact .inl (congrArg Prod.fst (if_pos ended))
  obtain ⟨taken, result⟩ := readLine_takes readable
  rw [if_neg ended, promptLine, if_neg Bool.false_ne_true]
  by_cases nothing : m.coming = []
  · exact .inl (result.trans (if_pos nothing))
  · have line := List.length_pos_iff.mpr (firstLine_ne_nil nothing)
    have sizes := congrArg List.length taken
    rw [List.length_append] at sizes
    exact .inr (by omega)

theorem viewpoint_eq {m m' : Machine} (directory : m'.directory = m.directory)
    (streams : ∀ handle < 3, m'.storage.nodeOf? handle = m.storage.nodeOf? handle) :
    m'.viewpoint = m.viewpoint := by
  simp only [viewpoint, Storage.viewpoint, directory, standardStreams, List.filterMap_cons,
    List.filterMap_nil, streams Handle.input (by decide), streams Handle.output (by decide),
    streams Handle.errors (by decide)]

theorem replaceFile_ok {m : Machine} {path : String} {bytes : Bytes}
    (saved : (replaceFile path bytes m).1 = .ok ()) :
    ∃ handle opened,
      m.storage.openForWriting .write m.viewpoint path = (.ok handle, opened) ∧
      (replaceFile path bytes m).2 = { m with storage := (opened.write handle bytes).2 } := by
  rw [replaceFile, openOutput, onStorage, if_neg Bool.false_ne_true] at saved ⊢
  cases opens : m.storage.openForWriting .write m.viewpoint path with
  | mk result opened =>
      rw [opens] at saved
      cases result with
      | error e => cases saved
      | ok handle => exact ⟨handle, opened, rfl, rfl⟩

theorem readFile_holds {m : Machine} {path : String} {node : NodeId} {bytes : Bytes}
    (found : m.storage.tree.find m.viewpoint path = .ok node)
    (holds : m.storage.tree.Holds node bytes) : (readFile path m).1 = .ok bytes := by
  obtain ⟨handle, opened, opens, reads⟩ := Storage.read_opened m.viewpoint found holds
  simp only [readFile, openInput, onStorage, opens, reads]
  rfl

/-- A file that was replaced is read as it was written. -/
theorem host_replaceFile {m : Machine} {path : String} {bytes : Bytes}
    (streams : 3 ≤ m.storage.opened.size)
    (plain : ∀ node, m.storage.tree.find m.viewpoint path = .ok node →
      ∃ old, m.storage.tree.Holds node old)
    (saved : (host.replaceFile path bytes m).1 = .ok ()) :
    (host.readFile path (host.replaceFile path bytes m).2).1 = .ok bytes := by
  change (forShell (readFile path) (forShell (replaceFile path bytes) m).2).1 = _
  change (forShell (replaceFile path bytes) m).1 = _ at saved
  unfold forShell at saved ⊢
  split at saved
  · cases saved
  next alive =>
  obtain ⟨handle, opened, opens, after⟩ := replaceFile_ok saved
  obtain ⟨node, holds, found, same⟩ := Storage.replaced plain opens bytes
  rw [if_neg alive, after, if_neg alive]
  refine readFile_holds ?_ holds
  have view : ({ m with storage := (opened.write handle bytes).2 } : Machine).viewpoint =
      m.viewpoint :=
    viewpoint_eq rfl fun handle small => same handle (Nat.lt_of_lt_of_le small streams)
  rw [view]
  exact found

end LineShell.Machine

import LineShell.Machine.Storage
import LineShell.Proofs.Machine.FileTree

/-!
What open files give back. What was taken from one is no longer ahead in it; a file that is replaced
through one holds what was written, and is found where it was.
-/
namespace LineShell.Machine

namespace Storage
variable {s : Storage} {node : NodeId} {bytes : Bytes}

theorem write_shape (s : Storage) (handle : Handle) (bytes : Bytes) :
    (s.write handle bytes).2.tree.shape = s.tree.shape := by
  unfold write
  split
  · rfl
  split
  · rfl
  split
  · split <;> rfl
  · next there => exact FileTree.replace_shape there rfl
  · next there => exact FileTree.replace_shape there rfl
  · rfl
  · exact FileTree.setBytes_shape _ _ _

theorem ahead_skip {handle : Handle} {ahead : Bytes} (count : Nat)
    (readable : s.ahead handle = .ok ahead) :
    (s.skip handle count).ahead handle = .ok (ahead.drop count) := by
  unfold Storage.ahead at readable
  split at readable
  · cases readable
  next node access place opened =>
  split at readable
  · cases readable
  next reads =>
  split at readable
  · cases readable
  · next bytes there =>
      cases readable
      have inside := (Array.getElem?_eq_some_iff.mp there).1
      simp only [skip, Storage.ahead, opened, there, FileTree.replace, if_neg reads,
        Array.getElem?_setIfInBounds_self_of_lt inside]
  · next noDirectory noPipe =>
      cases readable
      have same : s.skip handle count = s.setPlace handle (place + count) := by
        rw [skip, opened]
        dsimp only
        split
        · next bytes there => exact absurd there (noPipe bytes)
        · rfl
      have moved : (s.setPlace handle (place + count)).opened[handle]? =
          some { node, access, place := place + count } := by
        rw [setPlace, Array.getElem?_modify, if_pos rfl, opened]
        rfl
      rw [same, Storage.ahead, moved]
      dsimp only
      rw [if_neg reads, List.drop_drop]
      split
      · next there => exact absurd there (noDirectory _ _ _)
      · next bytes there => exact absurd there (noPipe bytes)
      · rfl

theorem attach_opened (s : Storage) (node : NodeId) (access : Access) :
    (s.attach node access).2.opened[s.opened.size]? = some { node, access } :=
  Array.getElem?_push_size

theorem isAbsent_file (holds : s.tree.Holds node bytes) : s.isAbsent node = false := by
  obtain ⟨executable, there⟩ := holds
  rw [isAbsent, there]

/-- A file that is opened to be read is read from its start. -/
theorem read_opened (view : Viewpoint) {path : String} (found : s.tree.find view path = .ok node)
    (holds : s.tree.Holds node bytes) :
    ∃ handle s', s.openForReading view path = (.ok handle, s') ∧
      (s'.read handle id).1 = .ok bytes := by
  refine ⟨s.opened.size, (s.attach node .read).2, ?_, ?_⟩
  · rw [openForReading, found]
    dsimp only
    rw [isAbsent_file holds]
    rfl
  · obtain ⟨executable, there⟩ := holds
    have same : (s.attach node .read).2.tree.nodes[node]? = some (.file bytes executable) := there
    rw [read, ahead, attach_opened]
    dsimp only
    rw [same, FileTree.bytes, same]
    rfl

/-- What is written to a file that was opened empty is all that it holds. -/
theorem write_opened (holds : s.tree.Holds node []) (bytes : Bytes) :
    ((s.attach node .write).2.write s.opened.size bytes).2.tree = s.tree.setBytes node bytes := by
  obtain ⟨executable, there⟩ := holds
  have same : (s.attach node .write).2.tree.nodes[node]? = some (.file [] executable) := there
  rw [write, attach_opened]
  dsimp only
  rw [same, FileTree.bytes, same]
  simp [overwrite, setPlace, attach, Access.writes]

theorem openForWriting_cases {view : Viewpoint} {path : String} {handle : Handle} {s' : Storage}
    (plain : ∀ node, s.tree.find view path = .ok node → ∃ old, s.tree.Holds node old)
    (opens : s.openForWriting .write view path = (.ok handle, s')) :
    ∃ node tree, handle = s.opened.size ∧
      s' = (({ s with tree } : Storage).attach node .write).2 ∧
      tree.Holds node [] ∧ tree.find view path = .ok node := by
  unfold openForWriting at opens
  split at opens
  · cases opens
  · next directory name free =>
      cases opens
      exact ⟨_, _, rfl, rfl, ⟨false, FileTree.create_new⟩, FileTree.find_create free⟩
  · next node there =>
      split at opens
      · cases opens
      split at opens
      · cases opens
      · cases opens
        obtain ⟨old, holds⟩ := plain node (FileTree.find_of_place there)
        refine ⟨_, _, rfl, rfl, holds.setBytes [], ?_⟩
        rw [if_pos rfl, ← FileTree.find_shape, FileTree.setBytes_shape, FileTree.find_shape]
        exact FileTree.find_of_place there

theorem nodeOf?_attach {handle : Handle} (before : handle < s.opened.size) (access : Access) :
    (s.attach node access).2.nodeOf? handle = s.nodeOf? handle := by
  rw [nodeOf?, nodeOf?, attach, Array.getElem?_push_lt before, Array.getElem?_eq_getElem before]

theorem nodeOf?_write (s : Storage) (written handle : Handle) (bytes : Bytes) :
    (s.write written bytes).2.nodeOf? handle = s.nodeOf? handle := by
  have moved (tree : FileTree) (place : Nat) :
      (({ s with tree } : Storage).setPlace written place).nodeOf? handle = s.nodeOf? handle := by
    rw [nodeOf?, nodeOf?, setPlace, Array.getElem?_modify]
    split
    · next same =>
        subst same
        cases s.opened[written]? <;> rfl
    · rfl
  unfold write
  split
  · rfl
  split
  · rfl
  split
  · split <;> rfl
  · rfl
  · rfl
  · rfl
  · exact moved _ _

/-- A file that is replaced holds what was written, and is found where it was. -/
theorem replaced {view : Viewpoint} {path : String} {handle : Handle} {s' : Storage}
    (plain : ∀ node, s.tree.find view path = .ok node → ∃ old, s.tree.Holds node old)
    (opens : s.openForWriting .write view path = (.ok handle, s')) (bytes : Bytes) :
    ∃ node, (s'.write handle bytes).2.tree.Holds node bytes ∧
      (s'.write handle bytes).2.tree.find view path = .ok node ∧
      ∀ before < s.opened.size, (s'.write handle bytes).2.nodeOf? before = s.nodeOf? before := by
  obtain ⟨node, tree, rfl, rfl, empty, found⟩ := openForWriting_cases plain opens
  refine ⟨node, ?_, ?_, fun before early => ?_⟩
  · rw [write_opened empty]
    exact empty.setBytes bytes
  · rw [write_opened empty, ← FileTree.find_shape, FileTree.setBytes_shape, FileTree.find_shape]
    exact found
  · rw [nodeOf?_write]
    exact nodeOf?_attach early .write

end Storage

end LineShell.Machine

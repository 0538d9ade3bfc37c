import LineShell.Machine.FileTree
import Mathlib.Data.List.Basic

/-!
Where paths lead. What a path leads to hangs on the names of things and not on what files hold, so
it is a matter of the shape of a tree. A path that leads somewhere leads there also for who has more
files open, and a file that is made is found under the path that it was made for.
-/
namespace LineShell.Machine

def Node.shape : Node → Node
  | .file _ executable => .file [] executable
  | .pipe _ => .pipe []
  | .record _ => .record []
  | node => node

namespace FileTree

def shape (tree : FileTree) : FileTree where
  nodes := tree.nodes.map Node.shape

theorem shape_get (tree : FileTree) (id : NodeId) :
    tree.shape.nodes[id]? = tree.nodes[id]?.map Node.shape :=
  Array.getElem?_map

theorem walkSteps_shape (tree : FileTree) (opened : List (Nat × NodeId)) (aim : Aim)
    (follow : NodeId → List String → Except OsError Place) (here : NodeId) (steps : List String) :
    tree.shape.walkSteps opened aim follow here steps =
      tree.walkSteps opened aim follow here steps := by
  fun_induction FileTree.walkSteps tree opened aim follow here steps
  case case1 => rw [walkSteps]
  case case14 id _ noLink noDescriptor ih =>
    rw [walkSteps]
    simp only [shape_get, Node.shape, Option.map_some, if_false, Bool.false_eq_true, *]
    generalize tree.nodes[id]? = node at noLink noDescriptor ⊢
    rcases node with _ | (_ | _ | target | _ | _ | _ | _ | _ | _ | n)
    case some.link => exact absurd rfl (noLink target)
    case some.descriptor => exact absurd rfl (noDescriptor n)
    all_goals rfl
  case case15 here step rest noDirectory =>
    rw [walkSteps, shape_get]
    generalize tree.nodes[here]? = node at noDirectory ⊢
    rcases node with _ | (_ | ⟨parent, entries, removed⟩ | _ | _ | _ | _ | _ | _ | _ | _)
    case some.directory => exact absurd rfl (noDirectory parent entries removed)
    all_goals rfl
  case case10 =>
    rw [walkSteps]
    simp only [shape_get, Node.shape, Option.map_some, if_false, Bool.false_eq_true, *]
    rfl
  all_goals
    rw [walkSteps]
    simp only [shape_get, Node.shape, Option.map_some, if_true, if_false, Bool.false_eq_true,
      reduceCtorEq, and_self, and_false, *]

theorem walk_shape (tree : FileTree) (opened : List (Nat × NodeId)) (aim : Aim) (links : Nat) :
    tree.shape.walk opened aim links = tree.walk opened aim links := by
  induction links with
  | zero =>
      funext here steps
      exact walkSteps_shape tree opened aim _ here steps
  | succ links ih =>
      funext here steps
      rw [walk, walk, ih]
      exact walkSteps_shape tree opened aim _ here steps

theorem namesTo?_shape (tree : FileTree) (depth : Nat) (id : NodeId) :
    tree.shape.namesTo? depth id = tree.namesTo? depth id := by
  induction depth generalizing id with
  | zero => rfl
  | succ depth ih =>
      rw [namesTo?, namesTo?, shape_get]
      rcases tree.nodes[id]? with
        _ | (_ | ⟨parent, entries, _ | _⟩ | _ | _ | _ | _ | _ | _ | _ | _)
      case some.directory.false =>
        simp only [Option.map_some, Node.shape, shape_get, ih]
        split
        · rfl
        · rcases tree.nodes[parent]? with _ | (_ | _ | _ | _ | _ | _ | _ | _ | _ | _) <;> rfl
      all_goals rfl

theorem pathOf?_shape (tree : FileTree) (id : NodeId) :
    tree.shape.pathOf? id = tree.pathOf? id := by
  have size : tree.shape.nodes.size = tree.nodes.size := Array.size_map
  rw [pathOf?, pathOf?, namesTo?_shape, size]

theorem find_shape (tree : FileTree) (view : Viewpoint) (path : String) :
    tree.shape.find view path = tree.find view path := by
  simp only [find, place, walk_shape]

theorem isDirectory_shape (tree : FileTree) (id : NodeId) :
    tree.shape.isDirectory id = tree.isDirectory id := by
  rw [isDirectory, isDirectory, shape_get]
  rcases tree.nodes[id]? with _ | (_ | _ | _ | _ | _ | _ | _ | _ | _ | _) <;> rfl

theorem replace_shape {tree : FileTree} {id : NodeId} {old node : Node}
    (there : tree.nodes[id]? = some old) (same : node.shape = old.shape) :
    (tree.replace id node).shape = tree.shape := by
  refine congrArg FileTree.mk (Array.ext_getElem? fun i => ?_)
  rw [Array.getElem?_map, Array.getElem?_map]
  by_cases here : id = i
  · subst here
    have inside := (Array.getElem?_eq_some_iff.mp there).1
    rw [replace, Array.getElem?_setIfInBounds_self_of_lt inside, there]
    exact congrArg some same
  · rw [replace, Array.getElem?_setIfInBounds_ne here]

theorem setBytes_shape (tree : FileTree) (id : NodeId) (bytes : Bytes) :
    (tree.setBytes id bytes).shape = tree.shape := by
  unfold setBytes
  split
  · next there => exact replace_shape there rfl
  · rfl

end FileTree

/-- What is there in the place of a file to be made is what the path leads to. -/
inductive Aim.Finds : Aim → Aim → Prop
  | same (aim : Aim) : Finds aim aim
  | creation : Finds .creation .target

namespace FileTree

/-- A path that is followed to its end is followed there with more open files too. -/
theorem walkSteps_mono {tree : FileTree} {aim aim' : Aim} {opened opened' : List (Nat × NodeId)}
    {follow follow' : NodeId → List String → Except OsError Place} {place : Place}
    (aims : aim.Finds aim')
    (wider : ∀ n id, opened.lookup n = some id → opened'.lookup n = some id)
    (later : ∀ start steps, follow start steps = .ok place → follow' start steps = .ok place)
    {here : NodeId} {steps : List String}
    (found : tree.walkSteps opened aim follow here steps = .ok place) :
    tree.walkSteps opened' aim' follow' here steps = .ok place := by
  fun_induction FileTree.walkSteps tree opened aim follow here steps
  all_goals
    rw [walkSteps]
    cases aims
  all_goals try contradiction
  case case9.creation link | case11.creation link => cases link.2
  case case10.same | case10.creation =>
    simp only [if_false, reduceCtorEq, and_false, false_and, *]
    exact later _ _ found
  case case13.same lookup _ | case13.creation lookup _ _ _ =>
    simp only [if_false, Bool.false_eq_true, reduceCtorEq, and_false, false_and,
      wider _ _ lookup, *]
  all_goals
    simp only [if_true, if_false, Bool.false_eq_true, reduceCtorEq, and_self, and_false,
      false_and, *]

theorem walk_mono {tree : FileTree} {aim aim' : Aim} {opened opened' : List (Nat × NodeId)}
    (aims : aim.Finds aim')
    (wider : ∀ n id, opened.lookup n = some id → opened'.lookup n = some id)
    {links : Nat} {here : NodeId} {steps : List String} {place : Place}
    (found : tree.walk opened aim links here steps = .ok place) :
    tree.walk opened' aim' links here steps = .ok place := by
  induction links generalizing here steps with
  | zero => exact walkSteps_mono aims wider (fun _ _ failed => by cases failed) found
  | succ links ih => exact walkSteps_mono aims wider (fun _ _ => ih) found

structure Nameable (path : String) : Prop where
  noNul : ¬path.toList.contains '\x00' = true
  some : path ≠ ""
  short : ¬maxPathBytes < path.utf8ByteSize

theorem place_eq_ok_iff {tree : FileTree} {aim : Aim} {view : Viewpoint} {path : String}
    {place : Place} : tree.place aim view path = .ok place ↔ Nameable path ∧
      tree.walk view.opened aim maxLinks (if Path.isAbsolute path then root else view.directory)
        (stepsOf path) = .ok place := by
  unfold FileTree.place
  split
  · next nul => exact ⟨nofun, fun h => absurd nul h.1.noNul⟩
  split
  · next none => exact ⟨nofun, fun h => absurd none h.1.some⟩
  split
  · next long => exact ⟨nofun, fun h => absurd long h.1.short⟩
  · next noNul some short =>
      dsimp only
      generalize tree.walk view.opened aim maxLinks _ (stepsOf path) = found
      cases found with
      | error e => exact ⟨nofun, fun h => nomatch h.2⟩
      | ok place' =>
          exact ⟨fun h => ⟨⟨noNul, some, short⟩, by cases h; rfl⟩, fun h => by cases h.2; rfl⟩

theorem find_eq_ok_iff {tree : FileTree} {view : Viewpoint} {path : String} {id : NodeId} :
    tree.find view path = .ok id ↔ tree.place .target view path = .ok (.node id) := by
  unfold find
  split
  · next failed => simp [failed]
  · next free => simp [free]
  · next found => simp [found]

theorem place_mono {tree : FileTree} {aim aim' : Aim} {view view' : Viewpoint} {path : String}
    {place : Place} (aims : aim.Finds aim')
    (wider : ∀ n id, view.opened.lookup n = some id → view'.opened.lookup n = some id)
    (start : Path.isAbsolute path = true ∨ view'.directory = view.directory)
    (found : tree.place aim view path = .ok place) : tree.place aim' view' path = .ok place := by
  obtain ⟨nameable, walked⟩ := place_eq_ok_iff.mp found
  refine place_eq_ok_iff.mpr ⟨nameable, walk_mono aims wider ?_⟩
  rcases start with absolute | same
  · rwa [if_pos absolute] at walked ⊢
  · rwa [same]

theorem find_of_place {tree : FileTree} {view : Viewpoint} {path : String} {id : NodeId}
    (there : tree.place .creation view path = .ok (.node id)) : tree.find view path = .ok id :=
  find_eq_ok_iff.mpr (place_mono .creation (fun _ _ same => same) (.inr rfl) there)

end FileTree

def Node.withEntry (name : String) (id : NodeId) : Node → Node
  | .directory parent entries removed => .directory parent (entries ++ [(name, id)]) removed
  | node => node

namespace FileTree

theorem create_get (tree : FileTree) (directory : NodeId) (name : String) (node : Node)
    (i : NodeId) :
    (tree.create directory name node).2.nodes[i]? = (tree.nodes.push node)[i]?.map fun old =>
      if i = directory then old.withEntry name tree.nodes.size else old := by
  unfold create addNode changeEntries
  dsimp only
  split
  · next parent entries removed there =>
      have inside := (Array.getElem?_eq_some_iff.mp there).1
      by_cases here : i = directory
      · subst here
        rw [replace, Array.getElem?_setIfInBounds_self_of_lt inside, there]
        simp [Node.withEntry]
      · rw [replace, Array.getElem?_setIfInBounds_ne (Ne.symm here)]
        simp [here]
  · next noDirectory =>
      by_cases here : i = directory
      · subst here
        generalize (tree.nodes.push node)[i]? = old at noDirectory ⊢
        rcases old with _ | (_ | ⟨parent, entries, removed⟩ | _ | _ | _ | _ | _ | _ | _ | _)
        case some.directory => exact absurd rfl (noDirectory parent entries removed)
        all_goals simp [Node.withEntry]
      · simp [here]

section
variable {tree : FileTree} {directory : NodeId} {name : String} {bytes : Bytes} {executable : Bool}

theorem create_new :
    (tree.create directory name (.file bytes executable)).2.nodes[tree.nodes.size]? =
      some (.file bytes executable) := by
  rw [create_get, Array.getElem?_push_size, Option.map_some]
  split <;> rfl

/-- A directory keeps its entries, and the one that something is made in has one more. -/
theorem create_directory {here parent : NodeId} {entries : List (String × NodeId)}
    {removed : Bool} (there : tree.nodes[here]? = some (.directory parent entries removed))
    (node : Node) : ∃ entries', (tree.create directory name node).2.nodes[here]? =
        some (.directory parent entries' removed) ∧
      (∀ step id, entries.lookup step = some id → entries'.lookup step = some id) ∧
      (here = directory → entries.lookup name = none →
        entries'.lookup name = some tree.nodes.size) := by
  have inside := (Array.getElem?_eq_some_iff.mp there).1
  rw [create_get, Array.getElem?_push_lt inside, ← Array.getElem?_eq_getElem inside, there]
  by_cases same : here = directory
  · refine ⟨entries ++ [(name, tree.nodes.size)], ?_, fun step id found => ?_, fun _ none => ?_⟩
    · rw [Option.map_some, if_pos same]
      rfl
    · rw [List.lookup_append, found]
      rfl
    · rw [List.lookup_append, none]
      simp
  · exact ⟨entries, by rw [Option.map_some, if_neg same], fun _ _ => id, fun h => absurd h same⟩

/-- What is neither a directory nor made is there as it was before. -/
theorem create_other {i : NodeId} {node other : Node} (different : other ≠ node)
    (noDirectory : ∀ parent entries removed, other ≠ .directory parent entries removed) :
    (tree.create directory name node).2.nodes[i]? = some other ↔ tree.nodes[i]? = some other := by
  have kept (old : Node) :
      (if i = directory then old.withEntry name tree.nodes.size else old) = other ↔
        old = other := by
    split
    · cases old with
      | directory =>
          exact ⟨fun h => absurd h.symm (noDirectory _ _ _),
            fun h => absurd h.symm (noDirectory _ _ _)⟩
      | _ => rfl
    · rfl
  rw [create_get, Option.map_eq_some_iff, Array.getElem?_push]
  simp only [kept, exists_eq_right]
  split
  · next last =>
      rw [last, Array.getElem?_size]
      exact ⟨fun h => absurd (Option.some.inj h).symm different, nofun⟩
  · rfl

theorem create_link {i : NodeId} {target : String} :
    (tree.create directory name (.file bytes executable)).2.nodes[i]? = some (.link target) ↔
      tree.nodes[i]? = some (.link target) :=
  create_other nofun nofun

theorem create_descriptor {i : NodeId} {n : Nat} :
    (tree.create directory name (.file bytes executable)).2.nodes[i]? = some (.descriptor n) ↔
      tree.nodes[i]? = some (.descriptor n) :=
  create_other nofun nofun

theorem walkSteps_create {opened : List (Nat × NodeId)}
    {follow follow' : NodeId → List String → Except OsError Place}
    (later : ∀ start steps, follow start steps = .ok (.vacant directory name) →
      follow' start steps = .ok (.node tree.nodes.size))
    {here : NodeId} {steps : List String}
    (free : tree.walkSteps opened .creation follow here steps = .ok (.vacant directory name)) :
    (tree.create directory name (.file bytes executable)).2.walkSteps opened .target follow' here
      steps = .ok (.node tree.nodes.size) := by
  fun_induction FileTree.walkSteps tree opened .creation follow here steps
  all_goals try contradiction
  case case1 | case9 | case11 => cases free
  case case2 there _ ih =>
    obtain ⟨_, there', -⟩ := create_directory there (.file bytes executable)
    rw [walkSteps, there']
    simp only [if_true, *]
  case case3 there _ ih =>
    obtain ⟨_, there', -⟩ := create_directory there (.file bytes executable)
    rw [walkSteps, there']
    simp only [if_true, if_false, *]
  case case7 there _ _ _ _ none _ =>
    cases free
    obtain ⟨_, there', -, made⟩ := create_directory there (.file bytes executable)
    rw [walkSteps, there']
    simp only [if_false, made rfl none, create_new, walkSteps,
      Bool.false_eq_true, reduceCtorEq, false_and, *]
  case case10 there _ _ _ _ _ id found target link _ _ =>
    obtain ⟨_, there', keeps, -⟩ := create_directory there (.file bytes executable)
    rw [walkSteps, there']
    simp only [if_false, keeps _ _ found, create_link.mpr link, Bool.false_eq_true,
      reduceCtorEq, and_false, *]
    exact later _ _ free
  case case13 there _ _ _ _ _ id found n descriptor _ _ opened ih =>
    obtain ⟨_, there', keeps, -⟩ := create_directory there (.file bytes executable)
    rw [walkSteps, there']
    simp only [if_false, keeps _ _ found, create_descriptor.mpr descriptor, Bool.false_eq_true,
      reduceCtorEq, and_false, false_and, *]
  case case14 there _ _ _ _ _ id found noLink noDescriptor ih =>
    obtain ⟨_, there', keeps, -⟩ := create_directory there (.file bytes executable)
    rw [walkSteps, there']
    simp only [if_false, keeps _ _ found, Bool.false_eq_true, reduceCtorEq, false_and, *]
    split
    · next link => exact absurd (create_link.mp link) (noLink _)
    · next descriptor => exact absurd (create_descriptor.mp descriptor) (noDescriptor _)
    · rfl

theorem walk_create {opened : List (Nat × NodeId)} {links : Nat} {here : NodeId}
    {steps : List String}
    (free : tree.walk opened .creation links here steps = .ok (.vacant directory name)) :
    (tree.create directory name (.file bytes executable)).2.walk opened .target links here steps =
      .ok (.node tree.nodes.size) := by
  induction links generalizing here steps with
  | zero => exact walkSteps_create (fun _ _ failed => by cases failed) free
  | succ links ih => exact walkSteps_create (fun _ _ => ih) free

/-- A file that is made is found under the path that it was made for. -/
theorem find_create {view : Viewpoint} {path : String}
    (free : tree.place .creation view path = .ok (.vacant directory name)) :
    (tree.create directory name (.file bytes executable)).2.find view path =
      .ok tree.nodes.size := by
  obtain ⟨nameable, walked⟩ := place_eq_ok_iff.mp free
  exact find_eq_ok_iff.mpr (place_eq_ok_iff.mpr ⟨nameable, walk_create walked⟩)

end

def Holds (tree : FileTree) (id : NodeId) (bytes : Bytes) : Prop :=
  ∃ executable, tree.nodes[id]? = some (.file bytes executable)

theorem Holds.setBytes {tree : FileTree} {id : NodeId} {old : Bytes} (holds : tree.Holds id old)
    (bytes : Bytes) : (tree.setBytes id bytes).Holds id bytes := by
  obtain ⟨executable, there⟩ := holds
  have inside := (Array.getElem?_eq_some_iff.mp there).1
  refine ⟨executable, ?_⟩
  rw [FileTree.setBytes, there]
  exact Array.getElem?_setIfInBounds_self_of_lt inside

/-- Every directory has a path, and this leads to it. -/
def Charted (tree : FileTree) : Prop :=
  ∀ id, tree.isDirectory id = true →
    ∃ path, tree.pathOf? id = some path ∧ tree.find { directory := root } path = .ok id

instance (tree : FileTree) : Decidable tree.Charted :=
  decidable_of_iff (∀ id < tree.nodes.size, tree.isDirectory id = true →
      ∃ path ∈ tree.pathOf? id, tree.find { directory := root } path = .ok id) <| by
    refine ⟨fun all id directory => all id ?_ directory, fun all id _ => all id⟩
    refine Nat.lt_of_not_le fun outside => ?_
    rw [isDirectory, Array.getElem?_eq_none outside] at directory
    cases directory

theorem Charted.of_shape {tree tree' : FileTree} (charted : tree.Charted)
    (same : tree'.shape = tree.shape) : tree'.Charted := by
  intro id directory
  rw [← isDirectory_shape, same, isDirectory_shape] at directory
  obtain ⟨path, named, found⟩ := charted id directory
  refine ⟨path, ?_, ?_⟩
  · rwa [← pathOf?_shape, same, pathOf?_shape]
  · rwa [← find_shape, same, find_shape]

theorem isDirectory_of_pathOf? {tree : FileTree} {id : NodeId} {path : String}
    (named : tree.pathOf? id = some path) : tree.isDirectory id = true := by
  obtain ⟨names, above, -⟩ := Option.map_eq_some_iff.mp named
  rw [isDirectory]
  cases size : tree.nodes.size with
  | zero =>
      rw [size] at above
      cases above
  | succ depth =>
      rw [size, namesTo?] at above
      split at above
      · next there => rw [there]
      · cases above

theorem isAbsolute_of_pathOf? {tree : FileTree} {id : NodeId} {path : String}
    (named : tree.pathOf? id = some path) : Path.isAbsolute path = true := by
  obtain ⟨names, -, rfl⟩ := Option.map_eq_some_iff.mp named
  rw [Path.isAbsolute, String.toList_append]
  rfl

/-- A path is absolute, so it leads to the same place from everywhere. -/
theorem Charted.find {tree : FileTree} (charted : tree.Charted) {id : NodeId} {path : String}
    (named : tree.pathOf? id = some path) (view : Viewpoint) : tree.find view path = .ok id := by
  obtain ⟨path', named', found⟩ := charted id (isDirectory_of_pathOf? named)
  obtain rfl : path = path' := Option.some.inj (named.symm.trans named')
  exact find_eq_ok_iff.mpr (place_mono (.same _) (fun _ _ none => by cases none)
    (.inl (isAbsolute_of_pathOf? named)) (find_eq_ok_iff.mp found))

end FileTree

end LineShell.Machine

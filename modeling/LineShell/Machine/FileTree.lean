import LineShell.IoError
import LineShell.Path
import LineShell.Text.Utf8

/-!
The files of a machine: numbered nodes, of which the directories form a tree. A path is followed
from a directory to a node, through the symbolic links on its way, of which there may be forty.
Some names stand for what is open under a descriptor of whoever follows a path to them.
-/
namespace LineShell.Machine

abbrev NodeId := Nat

/-- Programs that come with the machine. -/
inductive Tool where
  | shell
  | copy
  | write
  | succeed
  | fail
  | pause
  | remove
  deriving DecidableEq, Repr

inductive Node where
  | file (bytes : Bytes) (executable : Bool)
  | directory (parent : NodeId) (entries : List (String × NodeId)) (removed : Bool)
  | link (target : String)
  /-- Takes everything and holds nothing. -/
  | sink
  /-- A device without room for anything. -/
  | full
  | tool (tool : Tool)
  /-- Holds what was written to it and not read yet. -/
  | pipe (bytes : Bytes)
  /-- Keeps all that was written to it. -/
  | record (bytes : Bytes)
  /-- The terminal of a machine that has none. -/
  | terminal
  /-- What is open under a descriptor. -/
  | descriptor (n : Nat)
  deriving Repr

/-- All nodes by number; number zero is the root directory. -/
structure FileTree where
  nodes : Array Node := #[.directory 0 [] false]
  deriving Repr

/-- What a path leads to: a node, or a name that is free in a directory. -/
inductive Place where
  | node (id : NodeId)
  | vacant (directory : NodeId) (name : String)
  deriving DecidableEq, Repr

/-- What a path is followed for: what it leads to, the link in its last place if there is one, or a
file that is made if it is missing. -/
inductive Aim where
  | target
  | link
  | creation
  deriving DecidableEq, Repr

/-- Where a path is followed from: a directory, and the nodes that are open under descriptors. -/
structure Viewpoint where
  directory : NodeId
  opened : List (Nat × NodeId) := []
  deriving DecidableEq, Repr

namespace FileTree

def root : NodeId := 0

def maxLinks : Nat := 40

def maxNameBytes : Nat := 255

def maxPathBytes : Nat := 4095

/-- The steps of a path; after a slash at its end comes an empty step, which asks for a
directory. -/
def stepsOf (path : String) : List String :=
  Path.parts path ++ if path.toList.getLast? = some '/' then [""] else []

/-- Follows steps from a node, with `follow` for the way on from where a link leads. A file to be
made cannot be one with a slash after its name, whether it is there or not. -/
def walkSteps (tree : FileTree) (opened : List (Nat × NodeId)) (aim : Aim)
    (follow : NodeId → List String → Except OsError Place) (here : NodeId) :
    List String → Except OsError Place
  | [] => .ok (.node here)
  | step :: rest =>
      match tree.nodes[here]? with
      | some (.directory parent entries removed) =>
          if step = "" ∨ step = "." then tree.walkSteps opened aim follow here rest
          else if step = ".." then tree.walkSteps opened aim follow parent rest
          else if aim = .creation ∧ rest = [""] then .error .isDirectory
          else if removed then .error .noEntry
          else if maxNameBytes < step.utf8ByteSize then .error .nameTooLong
          else
            match entries.lookup step with
            | none => if rest = [] then .ok (.vacant here step) else .error .noEntry
            | some id =>
                match tree.nodes[id]? with
                | some (.link target) =>
                    if rest = [] ∧ aim = .link then .ok (.node id)
                    else
                      let start := if Path.isAbsolute target then root else here
                      follow start (stepsOf target ++ rest)
                | some (.descriptor n) =>
                    if rest = [] ∧ aim = .link then .ok (.node id)
                    else
                      match opened.lookup n with
                      | none => .error .noEntry
                      | some id => tree.walkSteps opened aim follow id rest
                | _ => tree.walkSteps opened aim follow id rest
      | _ => .error .notDirectory

/-- Follows steps from a node, through so many links at most. -/
def walk (tree : FileTree) (opened : List (Nat × NodeId)) (aim : Aim) :
    (links : Nat) → NodeId → List String → Except OsError Place
  | 0 => tree.walkSteps opened aim fun _ _ => .error .tooManyLinks
  | links + 1 => tree.walkSteps opened aim (tree.walk opened aim links)

def place (tree : FileTree) (aim : Aim) (view : Viewpoint) (path : String) :
    Except IoError Place :=
  if path.toList.contains '\x00' then .error .nulInName
  else if path = "" then .error (.os .noEntry)
  else if maxPathBytes < path.utf8ByteSize then .error (.os .nameTooLong)
  else
    let start := if Path.isAbsolute path then root else view.directory
    (tree.walk view.opened aim maxLinks start (stepsOf path)).mapError .os

def find (tree : FileTree) (view : Viewpoint) (path : String) : Except IoError NodeId :=
  match tree.place .target view path with
  | .error e => .error e
  | .ok (.vacant ..) => .error (.os .noEntry)
  | .ok (.node id) => .ok id

def isDirectory (tree : FileTree) (id : NodeId) : Bool :=
  match tree.nodes[id]? with
  | some (.directory ..) => true
  | _ => false

/-- Whether a node is a program. -/
def isProgram (tree : FileTree) (id : NodeId) : Bool :=
  match tree.nodes[id]? with
  | some (.file _ executable) => executable
  | some (.tool _) => true
  | _ => false

/-- The bytes in a node, if it has any. The programs of the machine are not text. -/
def bytes (tree : FileTree) (id : NodeId) : Bytes :=
  match tree.nodes[id]? with
  | some (.file bytes _) => bytes
  | some (.tool _) => [0x7F, 0x45, 0x4C, 0x46, 0xFF]
  | _ => []

def replace (tree : FileTree) (id : NodeId) (node : Node) : FileTree :=
  { nodes := tree.nodes.setIfInBounds id node }

/-- Changes what a file holds; other nodes stay as they are. -/
def setBytes (tree : FileTree) (id : NodeId) (bytes : Bytes) : FileTree :=
  match tree.nodes[id]? with
  | some (.file _ executable) => tree.replace id (.file bytes executable)
  | _ => tree

/-- A node without a name. -/
def addNode (tree : FileTree) (node : Node) : NodeId × FileTree :=
  (tree.nodes.size, { nodes := tree.nodes.push node })

def changeEntries (tree : FileTree) (id : NodeId)
    (change : List (String × NodeId) → List (String × NodeId)) : FileTree :=
  match tree.nodes[id]? with
  | some (.directory parent entries removed) =>
      tree.replace id (.directory parent (change entries) removed)
  | _ => tree

def create (tree : FileTree) (directory : NodeId) (name : String) (node : Node) :
    NodeId × FileTree :=
  let (id, tree) := tree.addNode node
  (id, tree.changeEntries directory (· ++ [(name, id)]))

/-- The names from the root to a directory, unless it was removed. -/
def namesTo? (tree : FileTree) : (depth : Nat) → NodeId → Option (List String)
  | 0, _ => none
  | depth + 1, id =>
      match tree.nodes[id]? with
      | some (.directory parent _ false) =>
          if id = root then some []
          else do
            let some (.directory _ entries _) := tree.nodes[parent]? | none
            let (name, _) ← entries.find? (·.2 = id)
            let names ← tree.namesTo? depth parent
            pure (names ++ [name])
      | _ => none

def pathOf? (tree : FileTree) (id : NodeId) : Option String :=
  (tree.namesTo? tree.nodes.size id).map fun names => "/" ++ "/".intercalate names

def below (tree : FileTree) : (depth : Nat) → NodeId → List NodeId
  | 0, _ => []
  | depth + 1, id =>
      match tree.nodes[id]? with
      | some (.directory _ entries _) =>
          id :: entries.flatMap fun entry => tree.below depth entry.2
      | _ => [id]

def retire (tree : FileTree) (id : NodeId) : FileTree :=
  match tree.nodes[id]? with
  | some (.directory parent _ _) => tree.replace id (.directory parent [] true)
  | _ => tree

/-- Takes a directory with everything in it out of the tree. Who is in there stays there. -/
def remove (tree : FileTree) (id : NodeId) : FileTree :=
  match tree.nodes[id]? with
  | some (.directory parent _ _) =>
      (tree.below tree.nodes.size id).foldl retire
        (tree.changeEntries parent (·.filter (·.2 ≠ id)))
  | _ => tree

end FileTree

end LineShell.Machine

import LineShell.Host
import LineShell.Machine.FileTree

/-!
Open files. Each keeps its own place in what it reads or writes; who shares an open file shares
this place. A file opened for appending is written at its end wherever the place is.
-/
namespace LineShell.Machine

inductive Access where
  | read
  | write
  | append
  | both
  deriving DecidableEq, Repr

namespace Access

def reads : Access → Bool
  | .read | .both => true
  | .write | .append => false

def writes (access : Access) : Bool :=
  access ≠ .read

end Access

structure OpenFile where
  node : NodeId
  access : Access
  place : Nat := 0
  deriving DecidableEq, Repr

/-- The files of a machine with those that were opened; a handle is a position among these. -/
structure Storage where
  tree : FileTree := {}
  opened : Array OpenFile := #[]
  deriving Repr

namespace Storage

def attach (s : Storage) (node : NodeId) (access : Access) : Handle × Storage :=
  (s.opened.size, { s with opened := s.opened.push { node, access } })

def nodeOf? (s : Storage) (handle : Handle) : Option NodeId :=
  s.opened[handle]?.map (·.node)

/-- Where paths are followed from in a directory and with open files under descriptors. -/
def viewpoint (s : Storage) (directory : NodeId) (descriptors : List (Nat × Handle)) : Viewpoint :=
  { directory
    opened := descriptors.filterMap fun (n, handle) => (s.nodeOf? handle).map (n, ·) }

/-- Whether a node stands for a device that is not there. -/
def isAbsent (s : Storage) (node : NodeId) : Bool :=
  match s.tree.nodes[node]? with
  | some .terminal => true
  | _ => false

def openForReading (s : Storage) (view : Viewpoint) (path : String) :
    Except IoError Handle × Storage :=
  match s.tree.find view path with
  | .error e => (.error e, s)
  | .ok node =>
      if s.isAbsent node then (.error (.os .noDevice), s)
      else
        let (handle, s) := s.attach node .read
        (.ok handle, s)

/-- Opens for writing; a missing file is made, and one to be written from its start is emptied. -/
def openForWriting (s : Storage) (access : Access) (view : Viewpoint) (path : String) :
    Except IoError Handle × Storage :=
  match s.tree.place .creation view path with
  | .error e => (.error e, s)
  | .ok (.vacant directory name) =>
      let (node, tree) := s.tree.create directory name (.file [] false)
      let (handle, s) := { s with tree }.attach node access
      (.ok handle, s)
  | .ok (.node node) =>
      if s.tree.isDirectory node then (.error (.os .isDirectory), s)
      else if s.isAbsent node then (.error (.os .noDevice), s)
      else
        let tree := if access = .write then s.tree.setBytes node [] else s.tree
        let (handle, s) := { s with tree }.attach node access
        (.ok handle, s)

/-- A pipe: a handle to read from and one to write to. -/
def openPipe (s : Storage) : Handle × Handle × Storage :=
  let (node, tree) := s.tree.addNode (.pipe [])
  let (reading, s) := { s with tree }.attach node .read
  let (writing, s) := s.attach node .append
  (reading, writing, s)

def pipeOf? (s : Storage) (handle : Handle) : Option NodeId := do
  let id ← s.nodeOf? handle
  match s.tree.nodes[id]? with
  | some (.pipe _) => some id
  | _ => none

/-- Whether an open file can change this node. -/
def writesTo (s : Storage) (node : NodeId) (handle : Handle) : Bool :=
  s.opened[handle]?.any fun file => file.node = node && file.access.writes

/-- Whether an open file takes from this node. -/
def readsFrom (s : Storage) (node : NodeId) (handle : Handle) : Bool :=
  s.opened[handle]?.any fun file => file.node = node && file.access.reads

def setPlace (s : Storage) (handle : Handle) (place : Nat) : Storage :=
  { s with opened := s.opened.modify handle fun file => { file with place } }

def ahead (s : Storage) (handle : Handle) : Except OsError Bytes :=
  match s.opened[handle]? with
  | none => .error .badDescriptor
  | some { node, access, place } =>
      if !access.reads then .error .badDescriptor
      else
        match s.tree.nodes[node]? with
        | some (.directory ..) => .error .isDirectory
        | some (.pipe bytes) => .ok bytes
        | _ => .ok ((s.tree.bytes node).drop place)

def skip (s : Storage) (handle : Handle) (count : Nat) : Storage :=
  match s.opened[handle]? with
  | none => s
  | some file =>
      match s.tree.nodes[file.node]? with
      | some (.pipe bytes) =>
          { s with tree := s.tree.replace file.node (.pipe (bytes.drop count)) }
      | _ => s.setPlace handle (file.place + count)

/-- Takes the bytes that come next, as many as `choose` takes from those ahead. -/
def read (s : Storage) (handle : Handle) (choose : Bytes → Bytes) :
    Except OsError Bytes × Storage :=
  match s.ahead handle with
  | .error e => (.error e, s)
  | .ok ahead =>
      let taken := choose ahead
      (.ok taken, s.skip handle taken.length)

/-- The bytes of a file after some were written at a place; a gap before them is zero. -/
def overwrite (old : Bytes) (place : Nat) (new : Bytes) : Bytes :=
  old.take place ++ List.replicate (place - old.length) 0 ++ new ++ old.drop (place + new.length)

def write (s : Storage) (handle : Handle) (bytes : Bytes) : Except OsError Unit × Storage :=
  match s.opened[handle]? with
  | none => (.error .badDescriptor, s)
  | some { node, access, place } =>
      if !access.writes then (.error .badDescriptor, s)
      else
        match s.tree.nodes[node]? with
        | some .full => if bytes = [] then (.ok (), s) else (.error .noSpace, s)
        | some (.pipe old) =>
            (.ok (), { s with tree := s.tree.replace node (.pipe (old ++ bytes)) })
        | some (.record old) =>
            (.ok (), { s with tree := s.tree.replace node (.record (old ++ bytes)) })
        | some .sink => (.ok (), s)
        | _ =>
            let old := s.tree.bytes node
            let start := if access = .append then old.length else place
            let s := { s with tree := s.tree.setBytes node (overwrite old start bytes) }
            (.ok (), s.setPlace handle (start + bytes.length))

/-- Whether copying one open file to another would copy a file onto itself. -/
def sameFile (s : Storage) (source target : Handle) : Bool :=
  match s.opened[source]?, s.opened[target]? with
  | some a, some b =>
      match s.tree.nodes[a.node]? with
      | some (.file bytes _) => a.node = b.node ∧ a.place < bytes.length
      | _ => false
  | _, _ => false

end Storage

end LineShell.Machine

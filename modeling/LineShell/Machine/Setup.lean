import LineShell.Machine.Schedule

/-!
A machine as it comes: the usual directories, devices and programs, a directory to work in, and
three open streams. Files can be put into it and listed.
-/
namespace LineShell.Machine

/-- What to make under a path. -/
inductive FileSpec where
  | file (bytes : Bytes) (executable : Bool)
  | directory
  | link (target : String)
  deriving DecidableEq, Repr

namespace FileTree

def enterOrCreate (tree : FileTree) (here : NodeId) (name : String) : NodeId × FileTree :=
  match tree.walk [] .target maxLinks here [name] with
  | .ok (.node id) => (id, tree)
  | .ok (.vacant directory name) => tree.create directory name (.directory directory [] false)
  | .error _ => (here, tree)

def makeDirs (tree : FileTree) (here : NodeId) (names : List String) : NodeId × FileTree :=
  names.foldl (fun (here, tree) name => tree.enterOrCreate here name) (here, tree)

def put (tree : FileTree) (here : NodeId) (path : String) (node : Node) : FileTree :=
  let names := Path.parts path
  let start := if Path.isAbsolute path then root else here
  let (directory, tree) := tree.makeDirs start names.dropLast
  match names.getLast?.map fun name => tree.walk [] .target maxLinks directory [name] with
  | some (.ok (.vacant directory name)) => (tree.create directory name node).2
  | some (.ok (.node id)) => tree.replace id node
  | _ => tree

/-- Puts nodes into a directory that has none of these names yet. -/
def fill (tree : FileTree) (directory : NodeId) (nodes : List (String × Node)) : FileTree :=
  let entries := (nodes.map (·.1)).zipIdx tree.nodes.size
  { nodes := tree.nodes ++ nodes.map (·.2) : FileTree }.changeEntries directory (· ++ entries)

def install (tree : FileTree) (here : NodeId) (path : String) : FileSpec → FileTree
  | .file bytes executable => tree.put here path (.file bytes executable)
  | .link target => tree.put here path (.link target)
  | .directory =>
      (tree.makeDirs (if Path.isAbsolute path then root else here) (Path.parts path)).2

/-- An entry of a listing. -/
inductive Entry where
  | directory
  | file (bytes : Bytes)
  deriving DecidableEq, Repr

/-- The files and directories below a directory, with their paths from there. -/
def listing (tree : FileTree) : (depth : Nat) → NodeId → List (String × Entry)
  | 0, _ => []
  | depth + 1, id =>
      match tree.nodes[id]? with
      | some (.directory _ entries _) =>
          entries.flatMap fun (name, id) =>
            match tree.nodes[id]? with
            | some (.file bytes _) => [(name, .file bytes)]
            | some (.directory ..) =>
                (name, .directory) ::
                  (tree.listing depth id).map fun (path, entry) => (name ++ "/" ++ path, entry)
            | _ => []
      | _ => []

def standard : FileTree :=
  let directories := ["/tmp", "/usr/bin", "/usr/lib", "/usr/local/bin", "/usr/sbin", "/usr/share",
    "/boot", "/dev/pts", "/dev/shm", "/etc", "/home", "/media", "/mnt", "/opt", "/proc/self/fd",
    "/root", "/run", "/srv", "/sys", "/var/lib", "/var/log", "/var/tmp"]
  let tools : List (String × Tool) :=
    [("sh", .shell), ("dash", .shell), ("cat", .copy), ("echo", .write), ("true", .succeed),
      ("false", .fail), ("sleep", .pause), ("rmdir", .remove)]
  let tree := directories.foldl (fun tree path => install tree root path .directory) {}
  let tree := tools.foldl
    (fun tree (name, tool) => put tree root ("/usr/bin/" ++ name) (.tool tool)) tree
  let links := [("/bin", "usr/bin"), ("/sbin", "usr/sbin"), ("/lib", "usr/lib"),
    ("/dev/fd", "/proc/self/fd"), ("/dev/stdin", "/proc/self/fd/0"),
    ("/dev/stdout", "/proc/self/fd/1"), ("/dev/stderr", "/proc/self/fd/2"), ("/var/run", "/run")]
  let texts := [("/etc/group", "root:x:0:\n"), ("/etc/hostname", "localhost\n"),
    ("/etc/hosts", "127.0.0.1\tlocalhost\n"),
    ("/etc/passwd", "root:x:0:0:root:/root:/bin/sh\n")]
  let devices := [("/dev/null", Node.sink), ("/dev/zero", .sink), ("/dev/random", .sink),
    ("/dev/urandom", .sink), ("/dev/full", .full), ("/dev/tty", .terminal)]
  let descriptors := (List.range 256).map fun n => (toString n, Node.descriptor n)
  let nodes := links.map (fun (path, target) => (path, Node.link target)) ++
    texts.map (fun (path, text) => (path, .file (Bytes.ofString text) false)) ++ devices
  let tree := nodes.foldl (fun tree (path, node) => put tree root path node) tree
  let (directory, tree) := tree.makeDirs root ["proc", "self", "fd"]
  tree.fill directory descriptors

end FileTree

def listing (m : Machine) (directory : NodeId) : List (String × FileTree.Entry) :=
  m.storage.tree.listing m.storage.tree.nodes.size directory

/-- A machine whose shell is in the given directory and reads the given input; without any the
input is the null device. -/
def standard (directory : String) (input : Option Bytes) : Machine :=
  let (here, tree) := FileTree.standard.makeDirs FileTree.root (Path.parts directory)
  let (input, tree) := match input with
    | some bytes => tree.addNode (.pipe bytes)
    | none => ((tree.find { directory := here } "/dev/null").toOption.getD 0, tree)
  let (output, tree) := tree.addNode (.record [])
  let (errors, tree) := tree.addNode (.record [])
  let opened := #[{ node := input, access := .read }, { node := output, access := .append },
    { node := errors, access := .append }]
  { storage := { tree, opened }, directory := here }

def written (m : Machine) (handle : Handle) : Bytes :=
  match (m.storage.nodeOf? handle).bind (m.storage.tree.nodes[·]?) with
  | some (.record bytes) => bytes
  | _ => []

def clear (m : Machine) (handle : Handle) : Machine :=
  match m.storage.nodeOf? handle with
  | some node =>
      { m with storage := { m.storage with tree := m.storage.tree.replace node (.record []) } }
  | none => m

def install (m : Machine) (here : NodeId) (path : String) (spec : FileSpec) : Machine :=
  { m with storage := { m.storage with tree := m.storage.tree.install here path spec } }

def removeDir (m : Machine) (here : NodeId) (path : String) : Machine :=
  match m.storage.tree.find { directory := here } path with
  | .ok id => { m with storage := { m.storage with tree := m.storage.tree.remove id } }
  | .error _ => m

end LineShell.Machine

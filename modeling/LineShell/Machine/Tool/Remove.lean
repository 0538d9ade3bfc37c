import LineShell.Machine.Process.Action
import LineShell.Machine.Tool.Naming
import LineShell.Machine.Tool.Options

/-!
Removing empty directories, and the directories on the way to each of them, if that is asked for.
Who is in a removed directory stays there.
-/
namespace LineShell.Machine

namespace Removal

/-- A path without the slashes at its end; the root keeps one. -/
def withoutEnd (path : String) : String :=
  match path.toList.reverse.dropWhile (· = '/') with
  | [] => if path = "" then "" else "/"
  | rest => String.ofList rest.reverse

/-- The path of the directory that a path goes through last. -/
def parent? (path : String) : Option String :=
  match path.toList.reverse.dropWhile (· ≠ '/') with
  | [] => none
  | rest => some (withoutEnd (String.ofList rest.reverse))

/-- The directory that a path means, if it can be removed. A link in the last place is not
followed, whatever slashes come after it. -/
def directory (tree : FileTree) (view : Viewpoint) (path : String) : Except IoError NodeId := do
  match ← tree.place .link view (withoutEnd path) with
  | .vacant .. => .error (.os .noEntry)
  | .node id =>
      match (Path.parts path).getLast?, tree.nodes[id]? with
      | none, _ => .error (.os .busy)
      | some ".", _ => .error (.os .invalidArgument)
      | some "..", _ => .error (.os .notEmpty)
      | some _, some (.directory _ [] _) => .ok id
      | some _, some (.directory ..) => .error (.os .notEmpty)
      | some _, _ => .error (.os .notDirectory)

/-- What the options of a removal ask for. -/
structure Style where
  parents : Bool := false
  told : Bool := false
  /-- Whether a directory may stay because it is not empty. -/
  lenient : Bool := false
  deriving DecidableEq, Repr

namespace Style

def options : Options where
  letters := ['p', 'v']
  words := [("ignore-fail-on-non-empty", 'i'), ("path", 'p'), ("parents", 'p'), ("verbose", 'v')]

def add (style : Style) (letter : Char) : Style :=
  match letter with
  | 'p' => { style with parents := true }
  | 'v' => { style with told := true }
  | 'i' => { style with lenient := true }
  | _ => style

def pardons (style : Style) (e : IoError) : Bool :=
  style.lenient && (e = .os .notEmpty || e = .os .busy)

end Style

/-- Why a directory was not removed, as a program tells it. -/
def text : IoError → ByteText
  | .os e => e.text
  | e => e.message

open ProcessM

def tell (path : ByteText) : ProcessM Unit := do
  let name := (← context).name
  let line := name ++ ": removing directory, " ++ Naming.quoted path ++ "\n"
  if let .error e ← writeText 1 line then
    complainOf "write error" e.text
    setStatus 1

/-- Removes what one path means. -/
def attempt (style : Style) (path : ByteText) : ProcessM (Except IoError Unit) := do
  if style.told then tell path
  let view ← viewpoint
  let tree := (← files).tree
  match ByteText.decode? path with
  | none => pure (.error (.os .noEntry))
  | some path =>
      match directory tree view path with
      | .error e => pure (.error e)
      | .ok id => do
          changeStorage fun s => { s with tree := s.tree.remove id }
          pure (.ok ())

def complainOfPath (things : ByteText) (path : ByteText) (e : IoError) : ProcessM Unit := do
  complainOf ("failed to remove " ++ things ++ Naming.quoted path) (text e)
  setStatus 1

/-- Removes the directories on the way to one that is gone, the nearest first, up to one that
stays. -/
def removeParents (style : Style) : (fuel : Nat) → ByteText → ProcessM Unit
  | 0, _ => pure ()
  | fuel + 1, path => do
      if let some path := parent? path then
        match ← attempt style path with
        | .ok () => removeParents style fuel path
        | .error e =>
            if !style.pardons e then
              complainOfPath (if e = .os .notDirectory then "" else "directory ") path e

/-- Whether a path ends in a link, with slashes after it. -/
def endsInLink (tree : FileTree) (view : Viewpoint) (path : ByteText) : Bool :=
  path.toList.getLast? = some '/' &&
    match (ByteText.decode? (withoutEnd path)).map (tree.place .link view ·) with
    | some (.ok (.node id)) =>
        match tree.nodes[id]? with
        | some (.link _) => true
        | _ => false
    | _ => false

def removeAll (style : Style) : List ByteText → ProcessM Unit
  | [] => pure ()
  | path :: rest => do
      match ← attempt style path with
      | .ok () =>
          if style.parents then removeParents style path.length (withoutEnd path)
      | .error e =>
          if !style.pardons e then
            if endsInLink (← files).tree (← viewpoint) path then
              complainOf ("failed to remove " ++ Naming.quoted path) "Symbolic link not followed"
              setStatus 1
            else complainOfPath "" path e
      removeAll style rest

def run (args : List ByteText) : ProcessM Unit := do
  match Style.options.read args with
  | .error problem => misused problem
  | .ok (_, []) => misused "missing operand"
  | .ok (letters, operands) => do
      setStatus 0
      removeAll (letters.foldl Style.add {}) operands

end Removal

end LineShell.Machine

import LineShell.Machine.Builtin.Action

/-!
Looking for programs by name. A name with a slash is a path; any other is looked for in the
directories of the variable `PATH`, where only programs count.
-/
namespace LineShell.Machine.Builtins

def searchPath (c : Context) : ByteText :=
  (c.bindings.find? "PATH").getD ""

def pathsOf (c : Context) (name : ByteText) : List ByteText :=
  if name.toList.contains '/' then [name]
  else
    (Text.fields ':' (searchPath c).toList).map fun directory =>
      if directory = [] then name else String.ofList directory ++ "/" ++ name

def findNode? (s : Storage) (c : Context) (path : ByteText) : Option NodeId := do
  let view := s.viewpoint c.directory c.descriptors
  (s.tree.find view (← ByteText.decode? path)).toOption

/-- Whether a path leads to a file that is neither a directory nor a device. -/
def isRegular (s : Storage) (c : Context) (path : ByteText) : Bool :=
  match (findNode? s c path).bind (s.tree.nodes[·]?) with
  | some (.file ..) | some (.tool _) => true
  | _ => false

/-- Whether a path leads to a program. -/
def isRunnable (s : Storage) (c : Context) (path : ByteText) : Bool :=
  (findNode? s c path).any (s.tree.isProgram ·)

/-- Errors that mean that there is no program. -/
def isAbsence (e : OsError) : Bool :=
  e = .noEntry || e = .notDirectory || e = .tooManyLinks || e = .nameTooLong

def problemText (e : OsError) : ByteText :=
  if e = .noEntry ∨ e = .notDirectory then "not found" else e.text

def refusal (e : OsError) : Nat × ByteText :=
  (if isAbsence e then 127 else 126, problemText e)

/-- What keeps a program from being found at these paths: the last problem that is more than that
there is nothing. -/
def obstacle (s : Storage) (view : Viewpoint) : (last : OsError) → List ByteText → OsError
  | last, [] => last
  | last, path :: rest =>
      match (ByteText.decode? path).map (s.tree.find view ·) with
      | some (.ok _) => obstacle s view .permissionDenied rest
      | some (.error (.os e)) =>
          obstacle s view (if e = .noEntry ∨ e = .notDirectory then last else e) rest
      | _ => obstacle s view last rest

/-- What is said of a name for which no program is found. -/
def absence (s : Storage) (c : Context) (name : ByteText) : ByteText :=
  problemText (obstacle s (s.viewpoint c.directory c.descriptors) .noEntry (pathsOf c name))

end LineShell.Machine.Builtins

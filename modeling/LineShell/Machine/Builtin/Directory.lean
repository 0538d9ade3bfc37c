import LineShell.Machine.Builtin.Action

/-!
The directory of a script, by a name that need not be its only one: a step up goes back to where the
script came from.
-/
namespace LineShell.Machine.Builtins

open ProcessM Machine.Action

def partsOf (path : ByteText) : List ByteText :=
  ((Text.fields '/' path.toList).filter (· ≠ [])).map String.ofList

/-- What a path begins with if it is not taken from another one: a slash, or two, of which the
second is kept. -/
def rootOf (path : ByteText) : ByteText :=
  match path.toList.takeWhile (· = '/') with
  | ['/', '/'] => "//"
  | _ => "/"

/-- A path taken from a directory, without steps on the spot, and with each step up undoing the
step before it. -/
def logical (base path : ByteText) : ByteText :=
  let whole := path.toList.head? = some '/'
  let start := if whole then [] else partsOf base
  let steps := (partsOf path).foldl (fun done part =>
    if part = "." then done else if part = ".." then done.dropLast else done ++ [part]) start
  rootOf (if whole then path else base) ++ "/".intercalate steps

/-- The path of a directory in the files, nothing if it was removed. -/
def physical (tree : FileTree) (directory : NodeId) : ByteText :=
  ((tree.pathOf? directory).map ByteText.encode).getD ""

def enter (directory : NodeId) (name : ByteText) : ProcessM Unit := do
  modifyContext fun c =>
    let c := (c.setVariable "OLDPWD" c.directoryName).markExported "OLDPWD"
    ({ c with directory, directoryName := name }.setVariable "PWD" name).markExported "PWD"

/-- Where a path may lead: to the path in each directory of the variable `CDPATH`, unless it begins
with a step from here, and to the path itself. Whether the way is to be told goes with it. -/
def destinations (c : Context) (target : ByteText) : List (ByteText × Bool) :=
  let first := target.toList.takeWhile (· ≠ '/')
  let isPlain := target.toList.head? ≠ some '/' ∧ first ≠ ['.'] ∧ first ≠ ['.', '.']
  match (c.bindings.find? "CDPATH").filter fun _ => isPlain with
  | none => [(target, false)]
  | some directories =>
      let name := if target = "" then "." else target
      let through := (Text.fields ':' directories.toList).map fun directory =>
        if directory = [] then (name, false) else (String.ofList directory ++ "/" ++ name, true)
      through ++ [(target, false)]

def changeDir (args : List ByteText) : Action := do
  let (letters, args) ← options ['L', 'P'] args
  let c ← context
  let tree := (← files).tree
  let back := args.head? = some "-"
  let target := if back then (c.bindings.find? "OLDPWD").getD ""
    else args.headD ((c.bindings.find? "HOME").getD "")
  let view ← viewpoint
  let found := (destinations c target).findSome? fun (path, told) => do
    let isLogical := letters.getLast? ≠ some 'P' ∧
      (path.toList.head? = some '/' ∨ c.directoryName ≠ "")
    let path := if isLogical then logical c.directoryName path else path
    let node ← (tree.find view (← ByteText.decode? path)).toOption
    if tree.isDirectory node then
      pure (node, if isLogical then path else physical tree node, told)
    else none
  match found with
  | none => throw ("can't cd to " ++ target)
  | some (directory, name, told) => do
      enter directory name
      if back || told then emit (name ++ "\n") else status 0

def printDir (args : List ByteText) : Action := do
  let (letters, _) ← options ['L', 'P'] args
  let c ← context
  if letters.getLast? = some 'P' then
    emit (physical (← files).tree c.directory ++ "\n")
  else emit (c.directoryName ++ "\n")

end LineShell.Machine.Builtins

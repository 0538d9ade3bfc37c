import LineShell.Text.Split

/-!
Paths as text. A path names the same place under another spelling: repeated slashes, and single
dots after the beginning, add nothing to its components.
-/
namespace LineShell.Path

inductive Component where
  | root
  | here
  | parent
  | name (text : String)
  deriving DecidableEq, Repr

def parts (path : String) : List String :=
  ((Text.fields '/' path.toList).filter (· ≠ [])).map String.ofList

def isAbsolute (path : String) : Bool :=
  path.toList.head? = some '/'

def ofPart (part : String) : Component :=
  if part = ".." then .parent else .name part

def components (path : String) : List Component :=
  let rest := fun (ps : List String) => (ps.filter (· ≠ ".")).map ofPart
  if isAbsolute path then .root :: rest (parts path)
  else
    match parts path with
    | "." :: ps => .here :: rest ps
    | ps => rest ps

def Component.text : Component → String
  | .root => "/"
  | .here => "."
  | .parent => ".."
  | .name text => text

/-- The second path taken from the first: an absolute one replaces it, and exactly one slash is
put between them when the first does not end in one. -/
def join (base rest : String) : String :=
  if isAbsolute rest then rest
  else if base = "" ∨ base.toList.getLast? = some '/' then base ++ rest
  else base ++ "/" ++ rest

/-- The components after those of `base`, if the path begins with these. -/
def below? (path base : String) : Option (List Component) :=
  let whole := components path
  let front := components base
  if front.isPrefixOf whole then some (whole.drop front.length) else none

/-- A directory as the prompt shows it: relative to the home directory when it is inside. -/
def display (directory : String) (home : Option String) : String :=
  match home.bind (below? directory) with
  | none => directory
  | some [] => "~"
  | some rest => join "~" ("/".intercalate (rest.map Component.text))

end LineShell.Path

import LineShell.Host
import LineShell.Path

/-!
Which file a program's name means. A name with a slash is a path; any other is looked for in the
directories of the variable `PATH`, in order.
-/
namespace LineShell

/-- A search directory, with a tilde in front replaced by the home directory. -/
def searchDirectory (home : Option String) (directory : String) : String :=
  match Path.components directory with
  | .name "~" :: rest => (rest.map Path.Component.text).foldl Path.join (home.getD "")
  | _ => directory

def searchPaths (env : Environment) (home : Option String) (name : String) : List String :=
  match env.get? "PATH" with
  | none => []
  | some directories =>
      (Text.fields ':' directories.toList).map fun directory =>
        Path.join (searchDirectory home (String.ofList directory)) name

/-- The paths that a name may mean, the preferred first. Without a working directory there is
nothing to take a path from, and every name is looked for. -/
def candidates (env : Environment) (home here : Option String) (name : String) : List String :=
  if name = "" then []
  else
    match here, name.toList.contains '/' with
    | some here, true => [Path.join here name]
    | _, _ => searchPaths env home name

/-- The first of these paths that can be run. -/
def resolve {σ : Type} (h : Host σ) (env : Environment) (name : String) (s : σ) : Option String :=
  (candidates env (h.homeDir env s) (h.currentDir s).toOption name).find? (h.isExecutable · s)

end LineShell

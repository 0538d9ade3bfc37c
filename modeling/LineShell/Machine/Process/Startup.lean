import LineShell.Machine.Builtin.Control
import LineShell.Machine.Builtin.Directory

/-!
The beginning of a script: the variables that it starts with, and where its lines come from.
-/
namespace LineShell.Machine

namespace Startup

open ProcessM

def defaultPath : ByteText :=
  "/usr/local/sbin:/usr/local/bin:/usr/sbin:/usr/bin:/sbin:/bin"

/-- The variables that a script always has, beside those that were given to it. Others than names
of variables are not kept. -/
def withVariables (parent : ProcessId) (c : Context) : Context :=
  let entries := c.bindings.entries.filter fun entry => isIdentifier entry.1
  let given : Environment := { entries }
  let missing := [("PATH", defaultPath), ("PS1", "# "), ("PS2", "> "), ("PS4", "+ ")].filter
    fun entry => (given.find? entry.1).isNone
  let fixed := [("IFS", " \t\n"), ("OPTIND", "1"), ("PPID", toString parent)]
  { c with
    bindings := (missing ++ fixed).foldl (fun env entry => env.set entry.1 entry.2) given
    exported := entries.map (·.1) }

/-- The name that a script knows its directory by: the one it was given, if that is right, or else
its path. -/
def findDirectory : ProcessM Unit := do
  let c ← context
  let tree := (← files).tree
  let view : Viewpoint := { directory := c.directory }
  let isRight := fun (name : ByteText) =>
    name.toList.head? = some '/' &&
      ((ByteText.decode? name).bind fun path => (tree.find view path).toOption) = some c.directory
  let given := (c.bindings.find? "PWD").filter isRight
  let path := (tree.pathOf? c.directory).map ByteText.encode
  if given.isNone ∧ path.isNone then
    complain ("sh: 0: getcwd() failed: " ++ OsError.noEntry.text)
  let directoryName := (given <|> path).getD ""
  modifyContext fun c =>
    ({ c with directoryName }.setVariable "PWD" directoryName).markExported "PWD"

/-- What the arguments of a script ask for. -/
structure Request where
  options : List Char := []
  /-- Whether the script itself is the next argument. -/
  inline : Bool := false
  args : List ByteText := []

def readRequest : (fuel : Nat) → Request → List ByteText → Except ByteText Request
  | 0, r, args => .ok { r with args }
  | _ + 1, r, [] => .ok r
  | fuel + 1, r, arg :: rest =>
      match arg.toList with
      | ['-'] | ['-', '-'] => .ok { r with args := rest }
      | sign :: c :: more =>
          if sign = '-' ∨ sign = '+' then do
            let letters := (c :: more).filter fun c => c ≠ 'c' && c ≠ 'l'
            let inline := r.inline || (c :: more).contains 'c'
            let named := letters.contains 'o'
            let options ← Builtins.switchAll (sign = '-') (if named then rest.head? else none)
              r.options letters
            readRequest fuel { r with options, inline } (if named then rest.tail else rest)
          else .ok { r with args := arg :: rest }
      | _ => .ok { r with args := arg :: rest }

def refuse (problem : ByteText) : ProcessM Unit := do
  complainAt 0 problem
  leave 2

def checkControl : ProcessM Unit := do
  let options := (← context).options
  if options.contains 'm' ∨ options.contains 'i' then Builtins.giveUpControl 0

def begin (text : ByteText) : ProcessM Unit := do
  setStatus 0
  push [.source (Token.ofText 1 text) {}]

/-- Begins a script in a file, with the other arguments as its own. -/
def beginFile (path : ByteText) (params : List ByteText) : ProcessM Unit := do
  match ← Builtins.openScript path with
  | .error e => refuse ("cannot open " ++ path ++ ": " ++ Builtins.openProblem false e)
  | .ok handle => do
      modifyContext fun c => { c with name := path, params }
      checkControl
      push [.interpret handle]

/-- Begins a script as its arguments say: in the first one, in the file that it names, or in the
input. -/
def run (args : List ByteText) : ProcessM Unit := do
  let parent := (← self).parent
  modifyContext (withVariables parent)
  findDirectory
  match readRequest (args.length + 1) {} args with
  | .error problem => refuse problem
  | .ok request => do
      modifyContext fun c => { c with options := request.options }
      match request.inline, request.args with
      | true, [] => refuse "-c requires an argument"
      | true, text :: rest => do
          modifyContext fun c => { c with name := rest.headD c.name, params := rest.tail }
          checkControl
          begin text
      | false, args =>
          if args ≠ [] ∧ !request.options.contains 's' then
            beginFile (args.headD "") args.tail
          else
            modifyContext fun c =>
              { c with options := Builtins.switch true 's' c.options, params := args }
            checkControl
            match (← context).descriptors.lookup 0 with
            | some handle => push [.interpret handle]
            | none => setStatus 0

def interpret (handle : Handle) : ProcessM Unit := do
  match ← withStorage (·.read handle id) with
  | .ok bytes => begin (Builtins.scriptOf bytes)
  | .error _ => setStatus 0

end Startup

end LineShell.Machine

import LineShell.Machine.Storage
import LineShell.Machine.Context

/-!
From a file to a running program. A file is a program of the machine, or names in its first line
the one that interprets it; what does neither is left to the command language.
-/
namespace LineShell.Machine

/-- A program with the name it goes by and its arguments. -/
structure Invocation where
  tool : Tool
  name : ByteText
  args : List ByteText
  deriving DecidableEq, Repr

/-- What a program is loaded from: the files, where paths are followed from, and the files that are
held open. -/
structure Loader where
  storage : Storage
  view : Viewpoint
  held : List Handle

namespace Invocation

/-- How much of a file is looked at to find its interpreter. -/
def headSize : Nat := 256

def isGap (b : UInt8) : Bool :=
  b = 32 || b = 9

def isTerminator (b : UInt8) : Bool :=
  isGap b || b = 0

def trimEnd (bytes : Bytes) : Bytes :=
  (bytes.reverse.dropWhile isGap).reverse

/-- The interpreter that a file names in its first line, and an argument for it. The line ends at
a newline, or else where the looked-at part of the file ends, to which a zero belongs after the
last byte of a short file; without a newline the name must be seen to end. -/
def interpreter? (bytes : Bytes) : Option (Bytes × Option Bytes) := do
  let head := bytes.take headSize
  let head := head ++ List.replicate (headSize - head.length) 0
  let (35 :: 33 :: rest) := head | none
  let line := rest.takeWhile fun b => b ≠ 10 && b ≠ 0
  if (rest.drop line.length).head? = some 10 then
    let line := trimEnd (line.dropWhile isGap)
    let path := line.takeWhile (!isGap ·)
    let arg := (line.drop path.length).dropWhile isGap
    if path = [] then none else pure (path, if arg = [] then none else some arg)
  else
    let line := rest.dropWhile isGap
    if line = [] ∨ !line.any isTerminator then none
    else
      let path := line.takeWhile (!isTerminator ·)
      let after := line.drop path.length
      let given := (trimEnd after.dropLast).dropWhile isGap
      let isGiven := after.head?.any isGap && given ≠ []
      pure (path, if isGiven then some (given.takeWhile (· ≠ 0)) else none)

/-- The most bytes of one argument or variable, and of all of them. -/
def maxTextBytes : Nat := 131072

def maxTotalBytes : Nat := 2097152

/-- Whether a program can be given its path and these texts: each ends with a zero, and all but
the path have an address. -/
def fits (path : ByteText) (texts : List ByteText) : Bool :=
  texts.all (fun text => text.length + 1 ≤ maxTextBytes) &&
    texts.foldl (fun n text => n + text.length + 9) (path.length + 1) ≤ maxTotalBytes

def variableTexts (environment : Environment) : List ByteText :=
  environment.entries.map fun entry => entry.1 ++ "=" ++ entry.2

def executable (loader : Loader) (path : ByteText) : Except OsError NodeId :=
  let tree := loader.storage.tree
  match (ByteText.decode? path).map (tree.find loader.view ·) with
  | some (.error (.os e)) => .error e
  | none | some (.error _) => .error .noEntry
  | some (.ok id) =>
      if !tree.isProgram id then .error .permissionDenied
      else if loader.held.any (loader.storage.writesTo id ·) then .error .programBusy
      else .ok id

/-- What running a file comes to; interpreters may be interpreted, but not for ever. -/
def ofFile (loader : Loader) (environment : List ByteText) (path name : ByteText)
    (args : List ByteText) : (depth : Nat) → Except OsError Invocation
  | 0 => do
      let _ ← executable loader path
      .error .tooManyLinks
  | depth + 1 => do
      let id ← executable loader path
      if !fits path (name :: args ++ environment) then .error .tooMuchData
      else
        match loader.storage.tree.nodes[id]? with
        | some (.tool tool) => .ok { tool, name, args }
        | _ =>
            match interpreter? (loader.storage.tree.bytes id) with
            | none => .error .execFormat
            | some (interpreter, arg) =>
                let interpreter := ByteText.ofBytes interpreter
                let given := (arg.map ByteText.ofBytes).toList
                ofFile loader environment interpreter interpreter (given ++ path :: args) depth

/-- So many files may name an interpreter in turn, and the last of these is a program. -/
def maxInterpreters : Nat := 6

def shellPath : ByteText := "/bin/sh"

/-- What running a file comes to. A file that is no program is a script for the shell, where
`lenient`. -/
def find (loader : Loader) (lenient : Bool) (environment : Environment) (path name : ByteText)
    (args : List ByteText) : Except OsError Invocation :=
  let texts := variableTexts environment
  match ofFile loader texts path name args maxInterpreters with
  | .error .execFormat =>
      if lenient then ofFile loader texts shellPath shellPath (path :: args) maxInterpreters
      else .error .execFormat
  | outcome => outcome

/-- Errors after which the next directory is tried. -/
def isPassing (e : OsError) : Bool :=
  e = .permissionDenied || e = .noEntry || e = .notDirectory

/-- The first of these paths that can be run. A file that must not be run is passed, but told of
if there is no other. -/
def firstOf (attempt : ByteText → Except OsError Invocation) : (refused : Bool) →
    List ByteText → Except OsError Invocation
  | refused, [] => .error (if refused then .permissionDenied else .noEntry)
  | refused, path :: rest =>
      match attempt path with
      | .ok invocation => .ok invocation
      | .error e =>
          if isPassing e then firstOf attempt (refused || e = .permissionDenied) rest
          else .error e

def paths (directories name : ByteText) : List ByteText :=
  (Text.fields ':' directories.toList).map fun directory =>
    if directory = [] then name else String.ofList directory ++ "/" ++ name

/-- The program that a path means, or a name without a slash, which is looked for in the
directories of the variable `PATH`. -/
def search (loader : Loader) (lenient : Bool) (environment : Environment) (path name : ByteText)
    (args : List ByteText) : Except OsError Invocation :=
  let attempt := fun path => find loader lenient environment path name args
  if path.toList.contains '/' then attempt path
  else
    let directories := (environment.find? "PATH").getD "/bin:/usr/bin"
    firstOf attempt false (paths directories path)

end Invocation

end LineShell.Machine

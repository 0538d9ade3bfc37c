import LineShell.Machine.Builtin.Table
import LineShell.Machine.Process.Load
import LineShell.Machine.Process.Redirection
import LineShell.Machine.Script.Parse

/-!
Running a command whose words are known: a function, a builtin, or a program, which runs in a
process of its own unless nothing comes after it. Variables that are set in front of a command are
set for the command alone, unless it is a special one.
-/
namespace LineShell.Machine

namespace ProcessM

/-- Whether a script has something to run on a signal or at its end. -/
def hasTraps (c : Context) : Bool :=
  c.traps.any (·.2 ≠ "")

/-- Goes on with what words become, or starts the script whose output is needed for that first;
`again` is what to do once it is known. -/
def expand {α : Type} (outputs : List ByteText) (again : Task) (act : ExpandM α)
    (go : α → ProcessM Unit) : ProcessM Unit := do
  let c ← context
  match act.run.run { context := c, tree := (← files).tree, outputs } with
  | (.ok a, after) => do
      modifyContext fun _ => after.context
      go a
  | (.error (.problem text), _) => do
      complainHere text
      leave 2
  | (.error (.output line source), _) => do
      let (reading, writing) ← withStorage fun s =>
        let (reading, writing, s) := s.openPipe
        ((reading, writing), s)
      makeRoom
      let script := Task.source (Token.ofText line source) { final := true }
      let pid ← fork (·.setDescriptor 1 writing) [] [script]
      push [.collect reading pid, again]

/-! ### Programs -/

def loader : ProcessM Loader := do
  pure { storage := ← files, view := ← viewpoint, held := ← held }

def programContext (c : Context) (name : ByteText) (pid : ProcessId) : Context :=
  { scriptPid := pid, directory := c.directory, bindings := c.environment
    exported := c.environment.entries.map (·.1), descriptors := c.descriptors, mask := c.mask
    name }

/-- Tries paths in turn; the last error that says more than that there is nothing is told of. -/
def tryAll (attempt : ByteText → Except OsError Invocation) : (last : OsError) →
    List ByteText → Except OsError Invocation
  | last, [] => .error last
  | last, path :: rest =>
      match attempt path with
      | .ok invocation => .ok invocation
      | .error e =>
          tryAll attempt (if e = .noEntry ∨ e = .notDirectory then last else e) rest

/-- The program that a name means, or the status and the text of why there is none. -/
def findProgram (name : ByteText) (args : List ByteText) :
    ProcessM (Except (Nat × ByteText) Invocation) := do
  let c ← context
  let loader ← loader
  let attempt := fun path => Invocation.find loader true c.environment path name args
  if name.toList.contains '/' then pure ((attempt name).mapError Builtins.refusal)
  else
    let paths := Builtins.pathsOf c name
    match paths.dropWhile (!Builtins.isRunnable loader.storage c ·) with
    | [] => pure (.error (127, Builtins.absence loader.storage c name))
    | paths => pure ((tryAll attempt .noEntry paths).mapError Builtins.refusal)

def become (invocation : Invocation) : ProcessM Unit := do
  let tasks := (← get).machine.programTasks loadTime invocation.tool invocation.args
  modifySelf fun p =>
    { p with
      context := programContext p.context invocation.name p.pid
      tasks
      ignored := p.keptOff
      pending := [] }

def call (invocation : Invocation) : ProcessM Unit := do
  makeRoom
  let p ← self
  let m := (← get).machine
  let tasks := m.programTasks (forkTime + loadTime) invocation.tool invocation.args
  let pid ← spawn (programContext p.context invocation.name) tasks p.keptOff
  push [.await [pid] .command]

def runProgram (name : ByteText) (args : List ByteText) (manner : Manner) : ProcessM Unit := do
  match ← findProgram name args with
  | .error (status, text) => do
      complainHere (name ++ ": " ++ text)
      setStatus status
  | .ok invocation => do
      modifyContext (·.remember name)
      if manner.final ∧ !hasTraps (← context) then become invocation else call invocation

def replaceBy (name : ByteText) (args : List ByteText) : ProcessM Unit := do
  modifyContext fun c => { c with builtin := some "exec" }
  match ← findProgram name args with
  | .error (status, text) => do
      complainHere (name ++ ": " ++ text)
      leave status
  | .ok invocation => become invocation

/-! ### Functions and builtins -/

/-- How many functions may run inside each other. -/
def maxDepth : Nat := 1000

def callFunction (body : Script) (args : List ByteText) (manner : Manner) : ProcessM Unit := do
  let p ← self
  if maxDepth ≤ p.tasks.countP Task.isFunctionEnd then
    complainHere ("Maximum function recursion depth (" ++ toString maxDepth ++ ") reached")
    leave 2
  else
    push [.run body { tested := manner.tested } [], .endFunction p.context.params []]
    modifyContext fun c => { c with params := args }

/-- Runs a builtin; a problem of one that is `special` here ends the script. -/
def runBuiltin (b : ScriptBuiltin) (special : Bool) (name : ByteText) (args : List ByteText)
    (manner : Manner) : ProcessM Unit := do
  push [.endBuiltin (← context).builtin]
  modifyContext fun c => { c with builtin := some name }
  match ← (b.run manner.tested args).run with
  | .ok none => pure ()
  | .ok (some status) => setStatus status
  | .error problem => do
      complainHere problem
      if special then leave 2 else setStatus 2

/-- What a name means, in short or in a sentence; nothing if it means nothing. -/
def meaning? (s : Storage) (c : Context) (long : Bool) (name : ByteText) : Option ByteText :=
  let say := fun (what : ByteText) => some (if long then name ++ " is " ++ what else name)
  if Script.reserved.contains name then say "a shell keyword"
  else if (c.functions.lookup name).isSome then say "a shell function"
  else if name = "exec" then say "a special shell builtin"
  else if name = "command" ∨ name = "type" then say "a shell builtin"
  else
    match ScriptBuiltin.find? name with
    | some b => say (if b.special then "a special shell builtin" else "a shell builtin")
    | none =>
        let found := fun path =>
          if name.toList.contains '/' then (Builtins.findNode? s c path).isSome
          else Builtins.isRunnable s c path
        let known : ByteText := if c.remembered.contains name then "a tracked alias for " else ""
        (Builtins.pathsOf c name).find? found |>.map fun path =>
          if long then name ++ " is " ++ known ++ path else path

/-- Whether a name is that of a program. -/
def isProgramName (c : Context) (name : ByteText) : Bool :=
  !Script.reserved.contains name && (c.functions.lookup name).isNone &&
    !(["exec", "command", "type"].contains name) && (ScriptBuiltin.find? name).isNone

/-- Says what names mean, after what was said of others, of which some may mean nothing. -/
def describeAll (long : Bool) (said : ByteText) (missing : Bool) : List ByteText → Action
  | [] => do
      let written ← Action.emit said
      if missing then Action.status 127 else pure written
  | name :: rest => do
      match meaning? (← files) (← context) long name with
      | some text => do
          if isProgramName (← context) name then modifyContext (·.remember name)
          describeAll long (said ++ text ++ "\n") missing rest
      | none => describeAll long (said ++ if long then name ++ ": not found\n" else "") true rest

/-! ### Commands -/

/-- Sets variables in turn, each with those before it set, and gives what they were. -/
def assignments : List (String × Word) → ExpandM (List Saved)
  | [] => pure []
  | (name, word) :: rest => do
      let saved := (← Expansion.context).save name
      Expansion.setTo name (← Expansion.variableText word)
      pure (saved :: (← assignments rest))

/-- Exports variables for a command, after which they are as they were. -/
def lend (saved : List Saved) : ProcessM Unit := do
  if saved ≠ [] then
    push [.recover saved.reverse]
    modifyContext fun c => saved.foldl (fun c s => c.markExported s.name) c

/-- The text in front of a command that is shown, after its parameters are replaced; it stands as it
is if that cannot be done. -/
def traceMark : ProcessM ByteText := do
  let c ← context
  let mark := (c.bindings.find? "PS4").getD ""
  match Words.scan 1 (mark.length + 1) .document {} mark.toList with
  | .error misread => do
      complainAt misread.line ("Syntax error: " ++ Words.problemInDocument misread)
      pure mark
  | .ok (draft, _) =>
      let start : Expander := { context := c, tree := (← files).tree, outputs := [] }
      match (Expansion.text draft.word).run.run start with
      | (.ok text, after) => do
          modifyContext fun _ => after.context
          pure text
      | (.error _, _) => pure mark

def trace (words : List ByteText) : ProcessM Unit := do
  if (← context).hasOption 'x' then
    complain ((← traceMark) ++ " ".intercalate words)

/-- The name of a command that was asked for by `command`, which passes functions over, with what
else was asked. -/
def asked : List ByteText → List Char × List ByteText
  | arg :: rest =>
      match arg.toList with
      | ['-', '-'] => ([], rest)
      | '-' :: c :: more =>
          let (letters, rest) := asked rest
          (c :: more ++ letters, rest)
      | _ => ([], arg :: rest)
  | [] => ([], [])

/-- Runs a command that is no function, with its assignments made. -/
def runNamed (special : Bool) (name : ByteText) (args : List ByteText) (manner : Manner) :
    ProcessM Unit := do
  match ScriptBuiltin.find? name with
  | some b => runBuiltin b (special && b.special) name args manner
  | none => runProgram name args manner

def describing (long : Bool) (names : List ByteText) : ScriptBuiltin :=
  { special := false, run := fun _ _ => describeAll long "" false names }

/-- Whether the variables in front of a command stay set after it. -/
def keepsAssignments (c : Context) (words : List ByteText) : Bool :=
  match words with
  | [] => true
  | name :: _ =>
      (c.functions.lookup name).isNone &&
        (name = "exec" || (ScriptBuiltin.find? name).any (·.special))

def runWords (words : List ByteText) (manner : Manner) : ProcessM Unit := do
  match words with
  | [] => setStatus (← context).substituted
  | ["exec"] => setStatus 0
  | "exec" :: name :: args => replaceBy name args
  | "type" :: names => runBuiltin (describing true names) false "type" names manner
  | "command" :: args =>
      match asked args with
      | (_, []) => setStatus 0
      | (letters, name :: args) =>
          if let some letter := letters.find? fun c => !(['p', 'v', 'V'].contains c) then
            let refused := fun _ _ => throw ("Illegal option -" ++ letter.toString)
            runBuiltin { special := false, run := refused } false "command" [] manner
          else if letters.contains 'v' ∨ letters.contains 'V' then
            runBuiltin (describing (letters.contains 'V') [name]) false "command" [name] manner
          else if name = "exec" then
            match args with
            | [] => setStatus 0
            | name :: args => replaceBy name args
          else runNamed false name args manner
  | name :: args =>
      match (← context).functions.lookup name with
      | some body => callFunction body args manner
      | none => runNamed true name args manner

def runCommand (assigned : List (String × Word)) (words : List ByteText) (manner : Manner)
    (outputs : List ByteText) : ProcessM Unit := do
  let again := .command assigned words manner outputs
  expand outputs again (assignments assigned) fun saved => do
    let c ← context
    if saved ≠ [] then
      let shown := saved.map fun s => s.name ++ "=" ++ (c.bindings.find? s.name).getD ""
      trace (shown ++ words)
    if !keepsAssignments c words then lend saved
    runWords words manner

/-- Whether the arguments of a command that set variables are no fields. -/
def takesAssignments (words : List Word) : Bool :=
  match words.head?.bind Word.plain? with
  | some name => name = "export" || name = "readonly" || name = "local"
  | none => false

def wordsOf (words : List Word) : ExpandM (List ByteText) := do
  if takesAssignments words then
    let groups ← words.mapM fun word =>
      match Script.assignment? word with
      | some (name, value) => do
          let value ← Expansion.variableText value
          pure [name ++ "=" ++ value]
      | none => Expansion.wordFields word
    pure groups.flatten
  else Expansion.fields words

/-- Ends a script that makes no sense, on the line up to which it was read. -/
def endBySense (problem : ByteText) : ProcessM Unit := do
  let p ← self
  let line := p.tasks.findSome? fun task =>
    match task with
    | .source (lexeme :: _) _ => some lexeme.line
    | _ => none
  complainAt (line.getD p.context.line) problem
  leave 2

/-- Runs a simple command: its words are found first, then its redirections are made. -/
def runSimple (line : Nat) (assigned : List (String × Word)) (words : List Word)
    (redirects : List Redirect) (manner : Manner) (outputs : List ByteText) : ProcessM Unit := do
  modifyContext fun c =>
    { c with line, substituted := if outputs = [] then 0 else c.substituted }
  let again := .run (.command line assigned words redirects) manner outputs
  let act := do pure (← wordsOf words, ← Redirect.targets redirects)
  expand outputs again act fun (words, targets) => do
    if assigned.isEmpty ∧ words ≠ [] then trace words
    let before ← context
    if !targets.isEmpty ∧ words ≠ ["exec"] then push [.restore before.descriptors]
    let special := words ≠ [] && keepsAssignments before words
    match ← Redirect.makeAll true targets with
    | none => runCommand assigned words manner []
    | some (.senseless problem) => endBySense problem
    | some (.failed problem) => do
        complainHere problem
        if special then leave 2 else setStatus 2

end ProcessM

end LineShell.Machine

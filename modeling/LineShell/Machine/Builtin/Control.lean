import LineShell.Machine.Builtin.Jobs
import LineShell.Machine.Builtin.SearchPath

/-!
Commands on the course of a script: leaving it, its loops and its functions, reading more of it,
its options, and what happens on signals.
-/
namespace LineShell.Machine.Builtins

open ProcessM Machine.Action

/-- The status that a script had when it came to what is run at its end. -/
def statusAtEnd (c : Context) : List Task → Nat
  | [] => c.status
  | .conclude status :: _ => status
  | _ :: rest => statusAtEnd c rest

def exit (args : List ByteText) : Action := do
  let n ← match args with
    | [] => do
        let p ← self
        pure (statusAtEnd p.context p.tasks)
    | arg :: _ => natural arg
  leave n
  pure none

/-- Goes to the end of so many loops, which is left to be run, or to the next turn of the last. -/
def toLoop (next : Bool) : (depth : Nat) → List Task → Context → Option (List Task × Context)
  | 0, _, _ => none
  | depth + 1, tasks, c =>
      let isGoal := fun task => task.isLoop || task.isFunctionEnd
      match Context.leaveTo? isGoal tasks c with
      | some (.loop whileGood condition body manner _ _ :: rest, c) =>
          let here := if next then .loop whileGood condition body manner 0 false :: rest else rest
          some ((toLoop next depth rest c).getD (here, c))
      | some (.forEach line name values body manner :: rest, c) =>
          let here := if next then .forEach line name values body manner :: rest else rest
          some ((toLoop next depth rest c).getD (here, c))
      | _ => none

/-- Leaves loops, or goes on with the next turn of one. Outside of loops it does nothing. -/
def leaveLoops (next : Bool) (args : List ByteText) : Action := do
  let depth ← match args with
    | [] => pure 1
    | arg :: _ => natural arg
  if depth = 0 then throw ("Illegal number: " ++ args.headD "")
  setStatus 0
  modifySelf fun p =>
    match toLoop next depth p.tasks p.context with
    | some (tasks, context) => { p with tasks, context }
    | none => p
  pure none

/-- Leaves the innermost function or file, or else the script. -/
def returnFrom (args : List ByteText) : Action := do
  let n ← match args with
    | [] => pure (← context).status
    | arg :: _ => natural arg
  let p ← self
  match Context.leaveTo? (fun task => task.isFunctionEnd || task.isFileEnd) p.tasks
      (p.context.withStatus n) with
  | some (tasks, context) => modifySelf fun p => { p with tasks, context }
  | none => leave n
  pure none

def shift (args : List ByteText) : Action := do
  let n ← match args with
    | [] => pure 1
    | arg :: _ => natural arg
  if (← context).params.length < n then throw "can't shift that many"
  modifyContext fun c => { c with params := c.params.drop n }
  status 0

/-- Whether there is nothing to run in a script. -/
def isBlank (lexemes : List Lexeme) : Bool :=
  lexemes.all fun lexeme => lexeme.token.isNewline || lexeme.token.isFinish

def readMore (tested : Bool) (text : ByteText) (after : List Task) : Action :=
  let lexemes := Token.ofText 1 text
  if isBlank lexemes then status 0 else later (.source lexemes { tested } :: after)

def eval (tested : Bool) (args : List ByteText) : Action :=
  readMore tested (" ".intercalate args) []

/-- The script in some bytes, in which zeros do not count. -/
def scriptOf (bytes : Bytes) : ByteText :=
  ByteText.ofBytes (bytes.filter (· ≠ 0))

/-- What stands in an error message for a file that cannot be opened, or made. -/
def openProblem (creating : Bool) (e : IoError) : ByteText :=
  match e with
  | .os .noEntry | .os .notDirectory =>
      if creating then "Directory nonexistent" else "No such file"
  | .os e => e.text
  | e => e.message

def openScript (path : ByteText) : ProcessM (Except IoError Handle) := do
  match ByteText.decode? path with
  | none => pure (.error (.os .noEntry))
  | some name => do
      let view ← viewpoint
      withStorage (·.openForReading view name)

def contentOf (path : ByteText) : ProcessM (Except IoError Bytes) := do
  match ← openScript path with
  | .error e => pure (.error e)
  | .ok handle => do
      pure ((← withStorage (·.read handle id)).mapError .os)

def readFile (tested : Bool) (args : List ByteText) : Action := do
  match (← options [] args).2 with
  | [] => status 0
  | name :: _ => do
      let c ← context
      let storage ← files
      let path? := if name.toList.contains '/' then some name
        else (pathsOf c name).find? (isRegular storage c ·)
      match path? with
      | none => throw (name ++ ": not found")
      | some path =>
          match ← contentOf path with
          | .error e => throw ("cannot open " ++ path ++ ": " ++ openProblem false e)
          | .ok bytes => do
              modifyContext fun c => { c with builtin := some path }
              readMore tested (scriptOf bytes) [.endFile]

/-! ### Options -/

def switch (on : Bool) (letter : Char) (letters : List Char) : List Char :=
  if on then if letters.contains letter then letters else letters ++ [letter]
  else letters.filter (· ≠ letter)

/-- The ways to edit lines, of which a letter turns on one at most. -/
def editors : List Char := ['V', 'E']

def withoutRivals (letter : Char) (letters : List Char) : List Char :=
  if editors.contains letter then letters.filter fun c => c = letter || !editors.contains c
  else letters

/-- Turns on or off the options of single letters; a name may be asked for after them. -/
def switchAll (on : Bool) (name? : Option ByteText) : List Char → List Char →
    Except ByteText (List Char)
  | letters, [] => .ok letters
  | letters, c :: rest =>
      if c = 'o' then
        match name? with
        | none => switchAll on name? letters rest
        | some name =>
            match optionNames.lookup name with
            | some letter => switchAll on name? (switch on letter letters) rest
            | none => .error ("Illegal option -o " ++ name)
      else if optionNames.any (·.2 = c) then
        let letters := if on then withoutRivals c letters else letters
        switchAll on name? (switch on c letters) rest
      else .error ("Illegal option -" ++ c.toString)

/-- Reads options off the front of arguments: those that are on then, and the other arguments,
which are none at all if nothing says that they come. -/
def readOptions : (fuel : Nat) → List Char → List ByteText →
    Except ByteText (List Char × Option (List ByteText))
  | 0, letters, _ | _ + 1, letters, [] => .ok (letters, none)
  | fuel + 1, letters, arg :: rest =>
      match arg.toList with
      | ['-'] =>
          .ok (letters.filter fun c => c ≠ 'x' && c ≠ 'v', if rest = [] then none else some rest)
      | ['-', '-'] => .ok (letters, some rest)
      | sign :: c :: more =>
          if sign = '-' ∨ sign = '+' then do
            let named := (c :: more).contains 'o'
            let letters ← switchAll (sign = '-') (if named then rest.head? else none) letters
              (c :: more)
            readOptions fuel letters (if named then rest.tail else rest)
          else .ok (letters, some (arg :: rest))
      | _ => .ok (letters, some (arg :: rest))

/-- Gives up control of jobs, for which there would have to be a terminal. -/
def giveUpControl (line : Nat) : ProcessM Unit := do
  complainAt line "can't access tty; job control turned off"
  modifyContext fun c => { c with options := c.options.filter (· ≠ 'm') }

/-! ### Signals -/

/-- The traps in the order of their signals, as commands that set them. -/
def listTraps (c : Context) : ByteText :=
  String.join <| (List.range Signal.count).filterMap fun signal =>
    (c.traps.lookup signal).map fun action =>
      "trap -- " ++ quoted action ++ " " ++ Signal.name signal ++ "\n"

/-- Sets what is run on signals; without an action they do what they always did. -/
def trapAll (action : Option ByteText) : List ByteText → Action
  | [] => status 0
  | name :: rest =>
      match Signal.ofText? 0 name with
      | none => do
          complain ("trap: " ++ name ++ ": bad trap")
          status 1
      | some signal => do
          modifyContext fun c =>
            let others := c.traps.filter (·.1 ≠ signal)
            { c with traps := (action.map (signal, ·)).toList ++ others }
          trapAll action rest

def trap (args : List ByteText) : Action := do
  match (← options [] args).2 with
  | [] => do
      let c ← context
      if c.traps = [] then status 0 else emit (listTraps c)
  | [signal] => trapAll none [signal]
  | action :: signals =>
      if action = "-" then trapAll none signals
      else if (Text.natural? action.toList).isSome then trapAll none (action :: signals)
      else trapAll (some action) signals

def killUsage : ByteText :=
  "Usage: kill [-s sigspec | -signum | -sigspec] [pid | job]... or\nkill -l [exitstatus]"

/-- The signal that a `kill` command names, or that it lists them, and the other arguments. -/
def killOptions : (signal : Option Nat) → List ByteText →
    Except ByteText (Option Nat × Bool × List ByteText)
  | signal, [] => .ok (signal, false, [])
  | signal, arg :: rest =>
      match arg.toList with
      | ['-', '-'] => .ok (signal, false, rest)
      | ['-', 'l'] => .ok (signal, true, rest)
      | ['-', 's'] =>
          match rest with
          | [] => .error "No arg for -s option"
          | name :: rest =>
              match Signal.ofText? 1 name with
              | some signal => killOptions (some signal) rest
              | none => .error ("invalid signal number or name: " ++ name)
      | '-' :: 's' :: name =>
          match Signal.ofText? 1 (String.ofList name) with
          | some signal => killOptions (some signal) rest
          | none => .error ("invalid signal number or name: " ++ String.ofList name)
      | '-' :: c :: _ => .error ("Illegal option -" ++ c.toString)
      | _ => .ok (signal, false, arg :: rest)

def listSignals : List ByteText → Action
  | [] => do
      let names := (List.range Signal.count).tail.map fun signal => Signal.name signal ++ "\n"
      emit ("0\n" ++ String.join names)
  | arg :: _ => do
      let n ← natural arg
      let n := if 128 < n then n - 128 else n
      if 0 < n ∧ n < Signal.count then emit (Signal.name n ++ "\n")
      else throw ("invalid signal number or exit status: " ++ arg)

/-- The process that an argument means, if it is there; jobs are no groups of processes, and so have
none that could be meant. -/
def targetOf (arg : ByteText) : ExceptT ByteText ProcessM (Option ProcessId) := do
  match arg.toList with
  | '%' :: _ => do
      let _ ← jobOf arg
      pure none
  | '-' :: digits => do
      let _ ← natural (String.ofList digits)
      pure none
  | _ => do
      let n ← natural arg
      pure (some (UInt32.ofNat n))

def signalAll (sent : Nat) (so : Nat) : List ByteText → Action
  | [] => status so
  | arg :: rest => do
      let found ← match ← targetOf arg with
        | some pid => ProcessM.signal pid sent
        | none => pure false
      if found then signalAll sent so rest
      else
        complainHere (OsError.noSuchProcess.text ++ "\n")
        signalAll sent 1 rest

def kill (args : List ByteText) : Action := do
  let read : Except ByteText (Option Nat × Bool × List ByteText) := match args with
    | arg :: rest =>
        match arg.toList with
        | '-' :: name =>
            match Signal.ofText? 1 (String.ofList name) with
            | some signal => .ok (some signal, false, rest)
            | none => killOptions none args
        | _ => .ok (none, false, args)
    | [] => .error killUsage
  match read with
  | .error problem => throw problem
  | .ok (_, true, args) => listSignals args
  | .ok (_, false, []) => throw killUsage
  | .ok (signal, false, pids) => signalAll (signal.getD Signal.terminate) 0 pids

end LineShell.Machine.Builtins

import LineShell.Machine.Schedule

/-!
The machine as the system that a shell runs on. It does nothing more for a shell that a signal has
ended.
-/
namespace LineShell.Machine

/-- The home directory of the user, which the machine has on record if no variable names one. -/
def homeDir (env : Environment) : String :=
  ((env.get? "HOME").filter (· ≠ "")).getD "/root"

def currentDir (m : Machine) : Except IoError String :=
  match m.storage.tree.pathOf? m.directory with
  | some path => .ok path
  | none => .error (.os .noEntry)

def standardStreams : List (Nat × Handle) :=
  [(0, Handle.input), (1, Handle.output), (2, Handle.errors)]

def viewpoint (m : Machine) : Viewpoint :=
  m.storage.viewpoint m.directory standardStreams

def enterDir (path : String) (m : Machine) : Except IoError Machine :=
  match m.storage.tree.find m.viewpoint path with
  | .error e => .error e
  | .ok directory =>
      if m.storage.tree.isDirectory directory then .ok { m with directory }
      else .error (.os .notDirectory)

/-- An operation for the shell; one that is no more gets an error. -/
def forShell {α : Type} (act : Machine → Except IoError α × Machine) (m : Machine) :
    Except IoError α × Machine :=
  if m.shellEnded.isSome then (.error (.os .noSuchProcess), m) else act m

def onStorage {α : Type} (act : Storage → α × Storage) (m : Machine) : α × Machine :=
  let (result, storage) := act m.storage
  (result, { m with storage })

def writeBytes (handle : Handle) (bytes : Bytes) (m : Machine) : Except IoError Unit × Machine :=
  let (result, m) := onStorage (·.write handle bytes) m
  (result.mapError .os, m)

def openInput (path : String) (m : Machine) : Except IoError Handle × Machine :=
  onStorage (·.openForReading m.viewpoint path) m

def readFile (path : String) (m : Machine) : Except IoError Bytes × Machine :=
  match openInput path m with
  | (.error e, m) => (.error e, m)
  | (.ok handle, m) =>
      let (result, m) := onStorage (·.read handle id) m
      (result.mapError .os, m)

def openOutput (append : Bool) (path : String) (m : Machine) : Except IoError Handle × Machine :=
  onStorage (·.openForWriting (if append then .append else .write) m.viewpoint path) m

def replaceFile (path : String) (bytes : Bytes) (m : Machine) : Except IoError Unit × Machine :=
  match openOutput false path m with
  | (.error e, m) => (.error e, m)
  | (.ok handle, m) => writeBytes handle bytes m

def isExecutable (path : String) (m : Machine) : Bool :=
  (m.storage.tree.find m.viewpoint path).toOption.any (m.storage.tree.isProgram ·)

/-- Input is taken in blocks of this many bytes. -/
def blockSize : Nat := 8192

/-- Takes the next line of the input, and with it the whole blocks that it reaches into. -/
def readLine (m : Machine) : Except IoError (Option String) × Machine :=
  match m.storage.ahead Handle.input with
  | .error e => (.error (.os e), m)
  | .ok ahead =>
      let whole := m.unread ++ ahead
      let length := (whole.takeWhile (· ≠ 10)).length + 1
      let missing := length - m.unread.length
      let blocks := (missing + blockSize - 1) / blockSize
      let (taken, m) := onStorage (·.read Handle.input (·.take (blocks * blockSize))) m
      let held := m.unread ++ taken.toOption.getD []
      let m := { m with unread := held.drop length }
      if held = [] then (.ok none, m)
      else
        match Bytes.text? (held.take length) with
        | some text => (.ok (some text), m)
        | none => (.error .notUtf8, m)

/-- Takes a line after the prompt for it has been written, if it is to be shown. -/
def promptLine (shown : Bool) (prompt : String) (m : Machine) :
    Except IoError (Option String) × Machine :=
  if shown then
    match writeBytes Handle.output (Bytes.ofString prompt) m with
    | (.ok _, m) => readLine m
    | (.error e, m) => (.error e, m)
  else readLine m

def hasNul (text : String) : Bool :=
  text.toList.contains '\x00'

def encoded (environment : Environment) : Environment :=
  { entries := environment.entries.map fun entry =>
      (ByteText.encode entry.1, ByteText.encode entry.2) }

def descriptorsOf (streams : Streams) : List (Nat × Handle) :=
  [(0, streams.input.getD Handle.input), (1, streams.output.getD Handle.output),
    (2, streams.errors.getD Handle.errors)]

/-- The program in a file; a file that is no program is a script for the machine's own shell, where
`lenient`. -/
def findProgram (lenient : Bool) (program : Program) (m : Machine) : Except IoError Invocation :=
  if (program.path :: program.name :: program.args).any hasNul then .error .nulInData
  else
    let descriptors := descriptorsOf program.streams
    let held := m.processes.flatMap Process.handles ++ descriptors.map (·.2)
    let loader : Loader :=
      { storage := m.storage, view := m.storage.viewpoint m.directory descriptors, held }
    (Invocation.search loader lenient (encoded program.environment)
      (ByteText.encode program.path) (ByteText.encode program.name)
      (program.args.map ByteText.encode)).mapError .os

/-- Starts a program; scripts must say what interprets them, unless `lenient`. -/
def begin (lenient : Bool) (program : Program) (m : Machine) :
    Except IoError ProcessId × Machine :=
  match findProgram lenient program m with
  | .error e => (.error e, m)
  | .ok invocation =>
      let pid := m.lastPid + 1
      let bindings := encoded program.environment
      let context : Context :=
        { scriptPid := pid, directory := m.directory, bindings
          exported := bindings.entries.map (·.1), descriptors := descriptorsOf program.streams
          name := invocation.name }
      let p : Process :=
        { pid, parent := shellPid, context
          tasks := m.programTasks (forkTime + loadTime) invocation.tool invocation.args
          ignored := if program.shielded then [Signal.interrupt, Signal.quit] else [] }
      (.ok pid, { m.settle with lastPid := pid }.insert p)

/-- Runs a program to its end; one that does not come to it is killed. -/
def run (program : Program) (m : Machine) : Except IoError WaitStatus × Machine :=
  match begin true program m with
  | (.error e, m) => (.error e, m)
  | (.ok pid, m) =>
      let m := m.await pid
      if m.shellEnded.isSome then (.error (.os .noSuchProcess), m)
      else (.ok ((m.status? pid).getD (.ofSignal Signal.kill)), m.collect pid)

/-- Whether a process is alive. One that has ended is forgotten once this was asked; how it ended
cannot be told if it was by a signal without a name. -/
def probe (pid : ProcessId) (m : Machine) : Except IoError Liveness × Machine :=
  match m.process? pid with
  | none => (.ok .exited, m)
  | some p =>
      match p.ended with
      | none => (.ok .alive, m)
      | some how =>
          let named := how.status.signal?.all fun signal => (signalName? signal).isSome
          (if named then .ok .exited else .error (.os .invalidArgument), m.collect pid)

def shield (m : Machine) : Machine :=
  { m with shielded := [Signal.interrupt, Signal.quit, Signal.pipe] }

def host : Host Machine where
  homeDir env _ := some (homeDir env)
  currentDir := currentDir
  enterDir := enterDir
  readFile path := forShell (readFile path)
  replaceFile path bytes := forShell (replaceFile path bytes)
  isExecutable := isExecutable
  openInput path := forShell (openInput path)
  openOutput append path := forShell (openOutput append path)
  write handle text := forShell (writeBytes handle (Bytes.ofString text))
  flush := forShell fun m => (.ok (), m)
  readLine shown prompt m :=
    if m.shellEnded.isSome then (.ok none, m) else promptLine shown prompt m
  start program := forShell (begin false program)
  run program := forShell (run program)
  probe pid := forShell (probe pid)
  shield := shield

end LineShell.Machine

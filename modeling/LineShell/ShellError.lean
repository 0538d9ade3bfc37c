import LineShell.IoError
import LineShell.Job
import LineShell.LineError
import LineShell.Status
import LineShell.Usage

/-!
Why a command line failed. A failure has a message of its own and may rest on causes; the exit
status that it leaves behind follows from its kind.
-/
namespace LineShell

inductive Stream where
  | input
  | output
  | error
  deriving DecidableEq, Repr

def Stream.text : Stream → String
  | .input => "input"
  | .output => "output"
  | .error => "error"

inductive ShellError where
  | note (text : String) (cause : Option IoError)
  | usage (error : UsageError)
  | io (error : IoError)
  | history (error : IoError)
  | line (error : LineError)
  | commandNotFound (name : String)
  | notStarted (program : String) (cause : Option IoError)
  | programFailed (program : String) (status : WaitStatus)
  | jobNotFound (id : JobId)
  | redirectFailed (path : String) (stream : Stream) (cause : Option IoError)
  | builtinFailed (message : String) (code : Int32)
  deriving DecidableEq, Repr

namespace ShellError

def message : ShellError → String
  | .note text _ => text
  | .usage error => error.message
  | .io error | .history error => error.message
  | .line error => error.message
  | .commandNotFound name => name ++ ": command not found"
  | .notStarted program _ => program ++ ": command failed"
  | .programFailed program status => program ++ ": command failed (" ++ status.message ++ ")"
  | .jobNotFound id => toString id ++ ": no such job"
  | .redirectFailed path stream _ => "cannot open " ++ stream.text ++ " file `" ++ path ++ "'"
  | .builtinFailed message _ => message

/-- The kind of failure in a few words. -/
def description : ShellError → String
  | .note text _ => text
  | .usage error => error.message
  | .io error | .history error => error.message
  | .line error => error.description
  | .commandNotFound _ => "command not found"
  | .notStarted .. | .programFailed .. => "command failed"
  | .jobNotFound _ => "no such job"
  | .redirectFailed .. => "redirection failed"
  | .builtinFailed .. => "builtin command failed"

/-- What the failure rests on, the nearest cause first. -/
def causes : ShellError → List String
  | .usage error => error.causes
  | .note _ cause | .notStarted _ cause | .redirectFailed _ _ cause =>
      cause.toList.map IoError.message
  | _ => []

/-- Whether the line could not be read, as against run. -/
def isLineError : ShellError → Bool
  | .line _ => true
  | _ => false

/-- The exit status that a line failing this way leaves behind, as a code from 0 to 255. -/
def code : ShellError → Nat
  | .line _ | .usage _ => 2
  | .commandNotFound _ => 127
  | .programFailed _ status => status.shellCode % 256
  | .builtinFailed _ code => (code.toInt.emod 256).toNat
  | _ => 1

def status (error : ShellError) : WaitStatus :=
  .ofCode (Int32.ofNat error.code)

/-- The line that tells the user about the failure and all its causes. -/
def report (error : ShellError) : String :=
  "simsh: " ++ ": ".intercalate (error.message :: error.causes)

end ShellError

end LineShell

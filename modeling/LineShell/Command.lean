import LineShell.Words

/-!
A command: its words, the files for its three streams, and whether to wait for it. It is built
from the tokens of one line; operators may stand anywhere, and the last of a kind counts.
-/
namespace LineShell

structure Command where
  args : List String := []
  inputFile : Option String := none
  outputFile : Option String := none
  append : Bool := false
  errorFile : Option String := none
  background : Bool := false
  deriving DecidableEq, Repr

/-- The operators that take the next token as a file name. -/
inductive Redirection where
  | input
  | output
  | appendOutput
  | error
  deriving DecidableEq, Repr

def Redirection.ofToken? : String → Option Redirection
  | "<" => some .input
  | ">" => some .output
  | ">>" => some .appendOutput
  | "2>" => some .error
  | _ => none

def isForbidden (token : String) : Bool :=
  token = "|" || token = "&&" || token = "||"

namespace Command

def redirect (command : Command) (target : String) : Redirection → Command
  | .input => { command with inputFile := some target }
  | .output => { command with outputFile := some target, append := false }
  | .appendOutput => { command with outputFile := some target, append := true }
  | .error => { command with errorFile := some target }

/-- Takes a token that is no redirection. The words of a command under construction come newest
first. -/
def plain (command : Command) (token : String) : Except LineError Command :=
  if token = "&" then .ok { command with background := true }
  else if isForbidden token then .error (.unsupportedOperator token)
  else .ok { command with args := token :: command.args }

/-- Takes the tokens one after another. The one after a redirection is its target, whatever
it is. -/
def absorb (command : Command) : List String → Except LineError Command
  | [] => .ok command
  | [token] =>
      match Redirection.ofToken? token with
      | some _ => .error (.missingTarget token)
      | none => command.plain token
  | token :: next :: rest =>
      match Redirection.ofToken? token with
      | some redirection => (command.redirect next redirection).absorb rest
      | none =>
          match command.plain token with
          | .ok command => command.absorb (next :: rest)
          | .error e => .error e

def ofTokens (tokens : List String) : Except LineError Command :=
  match ({} : Command).absorb tokens with
  | .error e => .error e
  | .ok command =>
      if command.args.isEmpty then .error .emptyCommand
      else .ok { command with args := command.args.reverse }

def parse (line : String) : Except LineError Command :=
  match tokenize line with
  | .error e => .error e
  | .ok tokens => ofTokens tokens

/-- The name of the program or builtin: the first word. -/
def program (command : Command) : String :=
  command.args.headD ""

def operands (command : Command) : List String :=
  command.args.tail

def argv (command : Command) : String :=
  " ".intercalate command.args

end Command

end LineShell

import LineShell.Command
import LineShell.Path

/-!
The home directory in words. A word that is a tilde, or begins with a tilde and a slash, is taken
from the home directory; by now quotes are gone, so a quoted tilde is one too.
-/
namespace LineShell

def expandTildeWord (home : String) (word : String) : String :=
  match word.toList with
  | ['~'] => home
  | '~' :: '/' :: rest => Path.join home (String.ofList rest)
  | _ => word

/-- The command with its words and file names expanded; without a home directory they stay. -/
def Command.expandTilde (command : Command) : Option String → Command
  | none => command
  | some home =>
      { command with
        args := command.args.map (expandTildeWord home)
        inputFile := command.inputFile.map (expandTildeWord home)
        outputFile := command.outputFile.map (expandTildeWord home)
        errorFile := command.errorFile.map (expandTildeWord home) }

end LineShell

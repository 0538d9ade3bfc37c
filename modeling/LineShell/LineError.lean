/-!
What can be wrong with a command line before anything runs.
-/
namespace LineShell

inductive LineError where
  | unterminatedQuote
  | trailingEscape
  | missingTarget (operator : String)
  | emptyCommand
  | unsupportedOperator (operator : String)
  deriving DecidableEq, Repr

def LineError.message : LineError → String
  | .unterminatedQuote => "syntax error: unterminated quote"
  | .trailingEscape => "syntax error: trailing backslash at end of input"
  | .missingTarget operator => "syntax error: expected a file name after `" ++ operator ++ "'"
  | .emptyCommand => "syntax error: no command provided"
  | .unsupportedOperator operator =>
      "syntax error: unsupported operator `" ++ operator ++ "'"

def LineError.description : LineError → String
  | .unterminatedQuote => "unterminated quote"
  | .trailingEscape => "trailing escape"
  | .missingTarget _ => "missing redirect target"
  | .emptyCommand => "empty command"
  | .unsupportedOperator _ => "unsupported operator"

end LineShell

import LineShell.Environment
import LineShell.Machine.Script.Tokens

/-!
Scripts out of tokens. A script is read a line at a time, so that what is wrong with a line does
not keep the lines before it from running.
-/
namespace LineShell.Machine

abbrev ScriptM := StateT (List Lexeme) (Except Misread)

namespace Script

def reserved : List String :=
  ["if", "then", "elif", "else", "fi", "while", "until", "for", "do", "done", "in", "case",
    "esac", "\x7b", "\x7d", "!"]

/-- Reserved words that only end something. -/
def closers : List String :=
  ["then", "elif", "else", "fi", "do", "done", "esac", "\x7d"]

def keyword? : Token → Option String
  | .word word => word.plain?.filter (reserved.contains ·)
  | _ => none

/-- A token as an error message names it, where no word is reserved. -/
def plainName : Token → String
  | .word _ => "word"
  | .operator text => "\"" ++ text ++ "\""
  | .redirect .. => "redirection"
  | .newline => "newline"
  | .finish => "end of file"
  | .broken problem => problem

def tokenName (token : Token) : String :=
  match keyword? token with
  | some keyword => "\"" ++ keyword ++ "\""
  | none => plainName token

def peek : ScriptM Lexeme := do
  pure ((← get).headD ⟨.finish, 1⟩)

/-- Goes on to the next token; at the end there is no other. -/
def advance : ScriptM Unit :=
  modify fun lexemes => match lexemes with
    | [] | [_] => lexemes
    | _ :: rest => rest

def complain (problem : String) : ScriptM α := do
  let lexeme ← peek
  throw ⟨lexeme.line, match lexeme.token with
    | .broken problem => problem
    | _ => problem⟩

/-- Refuses the token that stands here under a name, where something else may have been
expected. -/
def refuseAs (name : Token → String) (expected : Option String) : ScriptM α := do
  let lexeme ← peek
  complain <| name lexeme.token ++ " unexpected" ++
    match expected with
    | some "word" => " (expecting word)"
    | some text => " (expecting \"" ++ text ++ "\")"
    | none => ""

def refuse (expected : Option String) : ScriptM α :=
  refuseAs tokenName expected

def skipNewlines : ScriptM Unit :=
  modify (·.dropWhile (·.token.isNewline))

def atOperator (text : String) : ScriptM Bool := do
  pure ((← peek).token.isOperator text)

def atKeyword (text : String) : ScriptM Bool := do
  pure (keyword? (← peek).token = some text)

def expect (text : String) : ScriptM Unit := do
  if (← atKeyword text) || (← atOperator text) then advance else refuse (some text)

/-- Passes a closing parenthesis, in the place of which no word is reserved. -/
def expectClosing : ScriptM Unit := do
  if ← atOperator ")" then advance else refuseAs plainName (some ")")

/-- Whether a list of commands ends here. -/
def atStop : ScriptM Bool := do
  let token := (← peek).token
  pure (token.isFinish || token.isOperator ")" || token.isOperator ";;" ||
    (keyword? token).any (closers.contains ·))

def assignment? : Word → Option (String × Word)
  | .text text false :: rest => do
      let (name, value) ← Text.cut? '=' text.toList
      if isIdentifier (String.ofList name) then
        pure (String.ofList name,
          if value.isEmpty then rest else .text (String.ofList value) false :: rest)
      else none
  | _ => none

def word : ScriptM Word := do
  match (← peek).token with
  | .word word => do
      advance
      pure word
  | _ => refuse none

def redirects : (fuel : Nat) → ScriptM (List Redirect)
  | 0 => pure []
  | fuel + 1 => do
      match (← peek).token with
      | .redirect descriptor kind => do
          advance
          let target ← word
          pure ({ descriptor, kind, target } :: (← redirects fuel))
      | _ => pure []

def loopWords : (fuel : Nat) → ScriptM (List Word)
  | 0 => pure []
  | fuel + 1 => do
      match (← peek).token with
      | .word word => do
          advance
          pure (word :: (← loopWords fuel))
      | _ => pure []

/-- The parts of a command that is no compound one, each kind with the newest first. -/
structure Simple where
  assignments : List (String × Word) := []
  words : List Word := []
  redirects : List Redirect := []

def Simple.script (s : Simple) (line : Nat) : Script :=
  .command line s.assignments.reverse s.words.reverse s.redirects.reverse

/-- The name of the function that a simple command begins to define before a parenthesis. -/
def Simple.functionName? (s : Simple) : Option Word :=
  match s with
  | { assignments := [], words := [word], redirects := [] } => some word
  | _ => none

/-- Builtins whose names no function can have. -/
def specialNames : List String :=
  [".", ":", "break", "continue", "eval", "exec", "exit", "export", "readonly", "return", "set",
    "shift", "times", "trap", "unset"]

/-- The patterns of an alternative. Anything may stand in the place of one, but what is no word
matches nothing. -/
def patterns : (fuel : Nat) → ScriptM (List Word)
  | 0 => refuse none
  | fuel + 1 => do
      let token := (← peek).token
      advance
      let first := match token with
        | .word word => [word]
        | _ => []
      if ← atOperator "|" then
        advance
        pure (first ++ (← patterns fuel))
      else pure first

def followed (first : Script) : Script → Script
  | .nothing => first
  | second => .inTurn first second

mutual

/-- Commands up to where a list ends; there must be one unless the list may be empty. -/
def list (mayBeEmpty : Bool) : (fuel : Nat) → ScriptM Script
  | 0 => refuse none
  | fuel + 1 => do
      skipNewlines
      if (← peek).token.isFinish || (mayBeEmpty && (← atStop)) then pure .nothing
      else
        let first ← chain fuel
        if ← atOperator "&" then
          advance
          pure (followed (.background first) (← list true fuel))
        else if (← atOperator ";") || (← peek).token.isNewline then
          advance
          pure (followed first (← list true fuel))
        else pure first

def chain : (fuel : Nat) → ScriptM Script
  | 0 => refuse none
  | fuel + 1 => do
      links fuel (← piped fuel)

def links : (fuel : Nat) → Script → ScriptM Script
  | 0, _ => refuse none
  | fuel + 1, first => do
      if ← atOperator "&&" then
        advance
        skipNewlines
        links fuel (.ifGood first (← piped fuel))
      else if ← atOperator "||" then
        advance
        skipNewlines
        links fuel (.ifBad first (← piped fuel))
      else pure first

/-- Commands joined by pipes, with or without a negation. -/
def piped : (fuel : Nat) → ScriptM Script
  | 0 => refuse none
  | fuel + 1 => do
      let negated ← atKeyword "!"
      if negated then advance
      let first ← single fuel
      let others ← pipes fuel
      let body := if others.isEmpty then first else .pipeline (first :: others)
      pure (if negated then .negated body else body)

def pipes : (fuel : Nat) → ScriptM (List Script)
  | 0 => pure []
  | fuel + 1 => do
      if ← atOperator "|" then
        advance
        skipNewlines
        let part ← single fuel
        pure (part :: (← pipes fuel))
      else pure []

def single : (fuel : Nat) → ScriptM Script
  | 0 => refuse none
  | fuel + 1 => do
      let lexeme ← peek
      let apart := lexeme.token.isOperator "("
      match if apart then some "(" else keyword? lexeme.token with
      | none =>
          match lexeme.token with
          | .word _ | .redirect .. => simple lexeme.line fuel {}
          | _ => refuse none
      | some opening => do
          if closers.contains opening || opening = "in" || opening = "!" then refuse none
          advance
          let body ← compound fuel lexeme.line opening
          match ← redirects fuel with
          | [] => pure (if apart then .group true lexeme.line body [] else body)
          | redirects => pure (.group apart lexeme.line body redirects)

/-- The rest of a simple command, or a function of which it is the name. -/
def simple (line : Nat) : (fuel : Nat) → Simple → ScriptM Script
  | 0, s => pure (s.script line)
  | fuel + 1, s => do
      match (← peek).token with
      | .redirect descriptor kind => do
          advance
          let target ← word
          simple line fuel { s with redirects := { descriptor, kind, target } :: s.redirects }
      | .word word => do
          advance
          match if s.words.isEmpty then assignment? word else none with
          | some assignment =>
              simple line fuel { s with assignments := assignment :: s.assignments }
          | none => simple line fuel { s with words := word :: s.words }
      | .operator "(" =>
          match s.functionName? with
          | none => pure (s.script line)
          | some word => do
              advance
              expectClosing
              match word.plain?.filter fun name =>
                  isIdentifier name && !specialNames.contains name with
              | none => complain "Bad function name"
              | some name => do
                  skipNewlines
                  pure (.define name (← single fuel))
      | _ => pure (s.script line)

def compound : (fuel : Nat) → (line : Nat) → (opening : String) → ScriptM Script
  | 0, _, _ => refuse none
  | fuel + 1, line, opening => do
      match opening with
      | "if" | "elif" => do
          let condition ← list false fuel
          expect "then"
          let yes ← list false fuel
          if ← atKeyword "elif" then
            advance
            pure (.choice condition yes (← compound fuel line "elif"))
          else if ← atKeyword "else" then
            advance
            let no ← list false fuel
            expect "fi"
            pure (.choice condition yes no)
          else
            expect "fi"
            pure (.choice condition yes .nothing)
      | "while" | "until" => do
          let condition ← list false fuel
          expect "do"
          let body ← list false fuel
          expect "done"
          pure (.loop (opening = "while") condition body)
      | "for" => do
          let name := match (← peek).token with
            | .word word => word.plain?.filter isIdentifier
            | _ => none
          match name with
          | none => complain "Bad for loop variable"
          | some name => do
              advance
              skipNewlines
              let among ← if ← atKeyword "in" then do
                  advance
                  let words ← loopWords fuel
                  if !(← atOperator ";") && !(← peek).token.isNewline then refuse none
                  advance
                  pure words
                else do
                  if ← atOperator ";" then advance
                  pure [[.parameter "@" .value false [] true]]
              skipNewlines
              expect "do"
              let body ← list false fuel
              expect "done"
              pure (.forEach line name among body)
      | "case" => do
          let subject ← match (← peek).token with
            | .word word => pure word
            | _ => refuse (some "word")
          advance
          skipNewlines
          expect "in"
          pure (.select line subject (← arms fuel))
      | "\x7b" => do
          let body ← list false fuel
          expect "\x7d"
          pure body
      | _ => do
          let body ← list false fuel
          expect ")"
          pure body

def arms : (fuel : Nat) → ScriptM (List (List Word × Script))
  | 0 => refuse none
  | fuel + 1 => do
      skipNewlines
      if ← atKeyword "esac" then
        advance
        pure []
      else
        if ← atOperator "(" then advance
        let patterns ← patterns fuel
        expectClosing
        let body ← list true fuel
        skipNewlines
        if ← atKeyword "esac" then
          advance
          pure [(patterns, body)]
        else
          expect ";;"
          pure ((patterns, body) :: (← arms fuel))

end

def lineOf (tokens : Nat) : (fuel : Nat) → ScriptM Script
  | 0 => refuse none
  | fuel + 1 => do
      let first ← chain tokens
      let separated := fun (first : Script) => do
        advance
        let token := (← peek).token
        if token.isNewline || token.isFinish then pure first
        else pure (.inTurn first (← lineOf tokens fuel))
      let token := (← peek).token
      if token.isOperator "&" then separated (.background first)
      else if token.isOperator ";" then separated first
      else if token.isNewline || token.isFinish then pure first
      else refuse none

/-- Reads the next line with commands; none at the end of the script. -/
def next (lexemes : List Lexeme) : Except Misread (Option (Script × List Lexeme)) :=
  match lexemes.dropWhile (·.token.isNewline) with
  | [] => .ok none
  | first :: rest =>
      if first.token.isFinish then .ok none
      else
        let lexemes := first :: rest
        ((lineOf (8 * lexemes.length + 8) lexemes.length).run lexemes).map some

end Script

end LineShell.Machine

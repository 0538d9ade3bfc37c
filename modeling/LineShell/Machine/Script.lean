import LineShell.Machine.ByteText

/-!
Scripts of the command language that the machine's programs are written in: words with parameters
and the output of commands, redirections, and commands put together by conditions, loops, pipes
and functions.
-/
namespace LineShell.Machine

/-- What is made of the value of a parameter. Those after the first two go with a word. -/
inductive Operation where
  | value
  | length
  /-- The word stands in for a value that is missing. -/
  | fallback
  /-- As before, and the parameter is set to it. -/
  | assign
  /-- A missing value is an error, of which the word tells. -/
  | require
  /-- The word stands in for a value that is there. -/
  | replace
  /-- Takes what the word matches off the front or the end. -/
  | cutFront (longest : Bool)
  | cutBack (longest : Bool)
  | unknown
  deriving DecidableEq

/-- A piece of a word. What is not quoted is split after its parameters are replaced. -/
inductive Fragment where
  | text (text : ByteText) (quoted : Bool)
  /-- A parameter, whose value counts as missing if it is unset, or empty where `emptyToo`. -/
  | parameter (name : String) (operation : Operation) (emptyToo : Bool) (word : List Fragment)
      (quoted : Bool)
  /-- The output of a script that begins on the given line. -/
  | command (line : Nat) (source : ByteText) (quoted : Bool)
  | arithmetic (expression : List Fragment) (quoted : Bool)

abbrev Word := List Fragment

/-- The text of a word that could be a reserved one: nothing in it is quoted or replaced. -/
def Word.plain? : Word → Option String
  | [.text text false] => some text
  | _ => none

inductive RedirectKind where
  | input
  /-- Files that are there are spared where options ask for that, unless it is `forced`. -/
  | output (forced : Bool)
  | append
  | both
  | duplicate
  /-- The target is the text to read. -/
  | document
  deriving DecidableEq

structure Redirect where
  descriptor : Nat
  kind : RedirectKind
  target : Word

inductive Script where
  | nothing
  | command (line : Nat) (assignments : List (String × Word)) (words : List Word)
      (redirects : List Redirect)
  | inTurn (first second : Script)
  | ifGood (first second : Script)
  | ifBad (first second : Script)
  | negated (body : Script)
  | pipeline (parts : List Script)
  | background (body : Script)
  | choice (condition yes no : Script)
  | loop (whileGood : Bool) (condition body : Script)
  | forEach (line : Nat) (name : String) (words : List Word) (body : Script)
  | select (line : Nat) (word : Word) (arms : List (List Word × Script))
  | define (name : String) (body : Script)
  | group (apart : Bool) (line : Nat) (body : Script) (redirects : List Redirect)

end LineShell.Machine

import LineShell.Text.Blank

/-!
Comments. A number sign outside quotes and without a backslash before it begins a comment, also
in the middle of a word; the comment goes, and the blanks before it go with it.
-/
namespace LineShell

/-- Which quotes are open at a place in a line, and whether a backslash stands before it. -/
structure Quoting where
  single : Bool := false
  double : Bool := false
  escaped : Bool := false
  deriving DecidableEq, Repr

namespace Quoting

/-- Passes one character. A quote of one kind opens and closes only outside the other kind. -/
def step (q : Quoting) (c : Char) : Quoting :=
  if q.escaped then { q with escaped := false }
  else if c = '\\' ∧ ¬q.single then { q with escaped := true }
  else if c = '\x27' ∧ ¬q.double then { q with single := !q.single }
  else if c = '"' ∧ ¬q.single then { q with double := !q.double }
  else q

def bare (q : Quoting) : Bool :=
  !q.single && !q.double && !q.escaped

end Quoting

/-- The number of characters before the first bare number sign, if there is one; `passed` of them
were passed already. -/
def commentStart? (q : Quoting) (passed : Nat) : List Char → Option Nat
  | [] => none
  | c :: rest =>
      if c = '#' ∧ q.bare then some passed else commentStart? (q.step c) (passed + 1) rest

/-- The line without its comment; a line that has none is unchanged. -/
def stripComment (line : String) : String :=
  match commentStart? {} 0 line.toList with
  | none => line
  | some start => String.ofList (Text.trimEnd (line.toList.take start))

/-- The line as the shell goes on with it: no blanks around it and no comment. -/
def effective (line : String) : String :=
  stripComment (String.ofList (Text.trim line.toList))

end LineShell

import LineShell.Machine.ByteText

/-!
Patterns of the command language, which match whole texts. What is quoted in a pattern stands for
itself.
-/
namespace LineShell.Machine

/-- What one place of a pattern matches. -/
inductive Atom where
  | exact (c : Char)
  | anyOne
  | anyMany
  /-- One character in the ranges, or outside of them. -/
  | oneOf (negated : Bool) (ranges : List (Char × Char))
  deriving DecidableEq

abbrev Pattern := List Atom

/-- A character of a word, and whether it was quoted. -/
abbrev Marked := Char × Bool

namespace Pattern

def classRanges? : List Char → Option (List (Char × Char)) := fun name =>
  match String.ofList name with
  | "alpha" => some [('a', 'z'), ('A', 'Z')]
  | "digit" => some [('0', '9')]
  | "alnum" => some [('a', 'z'), ('A', 'Z'), ('0', '9')]
  | "upper" => some [('A', 'Z')]
  | "lower" => some [('a', 'z')]
  | "space" => some [('\t', '\x0d'), (' ', ' ')]
  | "blank" => some [('\t', '\t'), (' ', ' ')]
  | "punct" => some [('!', '/'), (':', '@'), ('[', '\x60'), ('\x7b', '~')]
  | "print" => some [(' ', '~')]
  | "graph" => some [('!', '~')]
  | "cntrl" => some [('\x00', '\x1f'), ('\x7f', '\x7f')]
  | "xdigit" => some [('0', '9'), ('a', 'f'), ('A', 'F')]
  | _ => none

/-- The name of a class after its opening marks, and the text after the class. -/
def className? (text : List Marked) : Option (List (Char × Char) × List Marked) :=
  let name := (text.takeWhile (·.1.isAlpha)).map (·.1)
  match text.drop name.length with
  | (':', _) :: (']', _) :: rest => (classRanges? name).map (·, rest)
  | _ => none

/-- The ranges up to the bracket that closes them, and the text after it. -/
def ranges? : (fuel : Nat) → (first : Bool) → List Marked →
    Option (List (Char × Char) × List Marked)
  | 0, _, _ | _ + 1, _, [] => none
  | fuel + 1, first, (c, quoted) :: rest =>
      if c = ']' ∧ ¬quoted ∧ ¬first then some ([], rest)
      else
        let named := if c = '[' ∧ ¬quoted ∧ rest.head?.map (·.1) = some ':'
          then className? rest.tail else none
        match named with
        | some (ranges, rest) =>
            (ranges? fuel false rest).map fun (others, rest) => (ranges ++ others, rest)
        | none =>
            match rest with
            | ('-', false) :: (last, lastQuoted) :: after =>
                if last = ']' ∧ ¬lastQuoted then
                  (ranges? fuel false rest).map fun (others, rest) => ((c, c) :: others, rest)
                else
                  (ranges? fuel false after).map fun (others, rest) => ((c, last) :: others, rest)
            | _ => (ranges? fuel false rest).map fun (others, rest) => ((c, c) :: others, rest)

/-- The place of a pattern after an opening bracket, which stands for itself if none closes it. -/
def bracket (rest : List Marked) : Atom × List Marked :=
  let (negated, inside) := match rest with
    | ('!', false) :: inside => (true, inside)
    | _ => (false, rest)
  match ranges? (inside.length + 1) true inside with
  | some (ranges, after) => (.oneOf negated ranges, after)
  | none => (.exact '[', rest)

def ofMarkedFrom : (fuel : Nat) → (done : Pattern) → List Marked → Pattern
  | 0, done, _ | _ + 1, done, [] => done.reverse
  | fuel + 1, done, (c, quoted) :: rest =>
      if quoted then ofMarkedFrom fuel (.exact c :: done) rest
      else if c = '*' then ofMarkedFrom fuel (.anyMany :: done) rest
      else if c = '?' then ofMarkedFrom fuel (.anyOne :: done) rest
      else if c = '[' then
        let (atom, rest) := bracket rest
        ofMarkedFrom fuel (atom :: done) rest
      else if c = '\\' then
        match rest with
        | (d, _) :: rest => ofMarkedFrom fuel (.exact d :: done) rest
        | [] => (Atom.exact c :: done).reverse
      else ofMarkedFrom fuel (.exact c :: done) rest

def ofMarked (text : List Marked) : Pattern :=
  ofMarkedFrom (text.length + 1) [] text

/-- The place of a byte in the order of ranges, where those that are not ASCII come first. -/
def rank (c : Char) : Int :=
  if c.toNat < 128 then c.toNat else c.toNat - 256

def Atom.accepts (atom : Atom) (c : Char) : Bool :=
  match atom with
  | .exact d => c = d
  | .anyOne | .anyMany => true
  | .oneOf negated ranges =>
      (ranges.any fun (first, last) => rank first ≤ rank c && rank c ≤ rank last) != negated

/-- Whether a pattern matches a whole text. -/
def accepts : Pattern → List Char → Bool
  | [], text => text.isEmpty
  | .anyMany :: atoms, [] => accepts atoms []
  | .anyMany :: atoms, c :: text => accepts atoms (c :: text) || accepts (.anyMany :: atoms) text
  | _ :: _, [] => false
  | atom :: atoms, c :: text => Atom.accepts atom c && accepts atoms text
termination_by atoms text => (atoms.length, text.length)

/-- Whether a pattern is more than a text. -/
def isProper (pattern : Pattern) : Bool :=
  pattern.any fun atom => match atom with
    | .exact _ => false
    | _ => true

/-- Takes off the front of a text what the pattern matches, as little or as much as it can. -/
def cutFront (longest : Bool) (pattern : Pattern) (text : List Char) : List Char :=
  let sizes := List.range (text.length + 1)
  match (if longest then sizes.reverse else sizes).find? fun n => accepts pattern (text.take n) with
  | some n => text.drop n
  | none => text

def cutBack (longest : Bool) (pattern : Pattern) (text : List Char) : List Char :=
  let sizes := List.range (text.length + 1)
  match (if longest then sizes else sizes.reverse).find? fun n => accepts pattern (text.drop n) with
  | some n => text.take n
  | none => text

end Pattern

end LineShell.Machine

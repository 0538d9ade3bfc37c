import LineShell.Machine.ByteText
import LineShell.Machine.Storage
import LineShell.Text.Numeral

/-!
Conditions on texts, numbers and files, given as words. What a word is depends on the words after
it: an operator in the place of an operand is a text like any other.
-/
namespace LineShell.Machine.Check

/-- What a condition is about: the files, and where paths are followed from. -/
structure Subject where
  tree : FileTree
  view : Viewpoint

/-- What was not understood of a condition. -/
abbrev Outcome (α : Type) := Except ByteText α

inductive Kind where
  | unary
  | binary
  | both
  | either
  | negation
  | opening
  | closing
  deriving DecidableEq

def unaryOperators : List String :=
  ["-r", "-w", "-x", "-e", "-f", "-d", "-c", "-b", "-p", "-u", "-g", "-k", "-s", "-h", "-L", "-S",
    "-O", "-G", "-t", "-z", "-n"]

def binaryOperators : List String :=
  ["=", "!=", "<", ">", "-eq", "-ne", "-ge", "-gt", "-le", "-lt", "-nt", "-ot", "-ef"]

def kind? (word : ByteText) : Option Kind :=
  if unaryOperators.contains word then some .unary
  else if binaryOperators.contains word then some .binary
  else
    match word with
    | "-a" => some .both
    | "-o" => some .either
    | "!" => some .negation
    | "(" => some .opening
    | ")" => some .closing
    | _ => none

/-- Whether an operator at the front of these words is an operand. -/
def isOperand : List ByteText → Bool
  | [] | [_] => true
  | [_, _] => false
  | _ :: second :: _ => kind? second = some .binary

def operator? (words : List ByteText) : Option Kind := do
  let word ← words.head?
  let kind ← kind? word
  if kind = .unary ∧ isOperand words then none
  else if kind = .opening ∧ words.tail = [] then none
  else some kind

def number (word : ByteText) : Outcome Int :=
  let isGap := fun (c : Char) => c = ' ' || ('\t' ≤ c && c ≤ '\x0d')
  let trimmed := (((word.toList.dropWhile isGap).reverse).dropWhile isGap).reverse
  match Text.signed64? (String.ofList trimmed) with
  | some n => .ok n
  | none => .error ("Illegal number: " ++ word)

namespace Subject

def find? (s : Subject) (word : ByteText) : Option NodeId := do
  (s.tree.find s.view (← ByteText.decode? word)).toOption

def isLink (s : Subject) (word : ByteText) : Bool :=
  match (ByteText.decode? word).map (s.tree.place .link s.view ·) with
  | some (.ok (.node id)) =>
      match s.tree.nodes[id]? with
      | some (.link _) | some (.descriptor _) => true
      | _ => false
  | _ => false

/-- A condition on one word that is no number. -/
def isTrueOf (s : Subject) (operator word : ByteText) : Bool :=
  let node := s.find? word
  let is := fun (test : Node → Bool) => (node.bind (s.tree.nodes[·]?)).any test
  match operator with
  | "-n" => word ≠ ""
  | "-z" => word = ""
  | "-e" | "-r" | "-w" | "-O" | "-G" => node.isSome
  | "-f" => is fun node => match node with | .file .. | .tool _ => true | _ => false
  | "-d" => is fun node => match node with | .directory .. => true | _ => false
  | "-c" => is fun node => match node with | .sink | .full | .terminal => true | _ => false
  | "-p" => is fun node => match node with | .pipe _ | .record _ => true | _ => false
  | "-x" => node.any fun id => s.tree.isDirectory id || s.tree.isProgram id
  | "-s" => node.any fun id => s.tree.isDirectory id || s.tree.bytes id ≠ []
  | "-h" | "-L" => s.isLink word
  | _ => false

def holdsOf (s : Subject) (operator word : ByteText) : Outcome Bool :=
  if operator = "-t" then (number word).map fun _ => false else .ok (s.isTrueOf operator word)

end Subject

def compare (s : Subject) (left operator right : ByteText) : Outcome Bool :=
  let numbers := fun (holds : Int → Int → Bool) => do
    pure (holds (← number left) (← number right))
  match operator with
  | "=" => .ok (left = right)
  | "!=" => .ok (left ≠ right)
  | "<" => .ok (left < right)
  | ">" => .ok (right < left)
  | "-eq" => numbers fun a b => a = b
  | "-ne" => numbers fun a b => a ≠ b
  | "-lt" => numbers fun a b => a < b
  | "-le" => numbers fun a b => a ≤ b
  | "-gt" => numbers fun a b => b < a
  | "-ge" => numbers fun a b => b ≤ a
  | "-ef" => .ok ((s.find? left).isSome && s.find? left = s.find? right)
  | _ => .ok false

mutual

/-- Alternatives, of which one must hold. Each of these functions gives back the words from the
last one it has taken. -/
def either (s : Subject) : (fuel : Nat) → List ByteText → Outcome (Bool × List ByteText)
  | 0, words => .ok (false, words)
  | fuel + 1, words => do
      let (first, words) ← both s fuel words
      if operator? words.tail = some .either then
        let (second, words) ← either s fuel (words.drop 2)
        pure (first || second, words)
      else pure (first, words)

def both (s : Subject) : (fuel : Nat) → List ByteText → Outcome (Bool × List ByteText)
  | 0, words => .ok (false, words)
  | fuel + 1, words => do
      let (first, words) ← negated s fuel words
      if operator? words.tail = some .both then
        let (second, words) ← both s fuel (words.drop 2)
        pure (first && second, words)
      else pure (first, words)

def negated (s : Subject) : (fuel : Nat) → List ByteText → Outcome (Bool × List ByteText)
  | 0, words => .ok (false, words)
  | fuel + 1, words => do
      if operator? words = some .negation then
        match words.tail with
        | [] => pure (true, words)
        | rest => do
            let (holds, words) ← negated s fuel rest
            pure (!holds, words)
      else primary s fuel words

/-- A condition that is no combination of others. -/
def primary (s : Subject) : (fuel : Nat) → List ByteText → Outcome (Bool × List ByteText)
  | 0, words => .ok (false, words)
  | _ + 1, [] => .ok (false, [])
  | fuel + 1, word :: rest => do
      match operator? (word :: rest) with
      | some .opening =>
          if operator? rest = some .closing then pure (false, rest)
          else
            let (holds, words) ← either s fuel rest
            if operator? words.tail = some .closing then pure (holds, words.tail)
            else throw "closing paren expected"
      | some .unary =>
          match rest with
          | [] => throw (word ++ ": argument expected")
          | operand :: _ => pure (← s.holdsOf word operand, rest)
      | _ =>
          match rest with
          | operator :: after =>
              if operator? rest = some .binary then
                match after with
                | [] => throw (operator ++ ": argument expected")
                | right :: _ => pure (← compare s word operator right, after)
              else pure (word ≠ "", word :: rest)
          | [] => pure (word ≠ "", [word])

end

/-- A condition of which no word may be left over. -/
def whole (s : Subject) (words : List ByteText) : Outcome Bool := do
  match ← either s (8 * words.length + 8) words with
  | (_, word :: _ :: _) => throw ((if word = "" then "" else word ++ ": ") ++ "unexpected operator")
  | (holds, _) => pure holds

/-- Whether a condition holds, or its opposite. With few words, their number tells what they are,
and denying one twice at the front counts once. -/
def holds (s : Subject) (denied : Bool) : List ByteText → Outcome Bool
  | [] => .ok false
  | word :: rest => do
      let words := word :: rest
      let isComparison := words.length = 3 && (words[1]?.bind kind?) = some .binary
      let isShort := (words.length = 3 || words.length = 4) && !isComparison
      if isShort ∧ word = "!" then holds s true rest
      else
        let holds ← match words with
          | [left, operator, right] =>
              if isComparison then compare s left operator right
              else whole s (if word = "(" ∧ right = ")" then [operator] else words)
          | words =>
              let isEnclosed := isShort && word = "(" && rest.getLast? = some ")"
              whole s (if isEnclosed then rest.dropLast else words)
        pure (holds != denied)

end LineShell.Machine.Check

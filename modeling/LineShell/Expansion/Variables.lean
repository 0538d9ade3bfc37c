import LineShell.Text.Split

/-!
Variables in a line, before it is cut into words. The line is read once from the left, and a value
put in is not read again. References are `$NAME` and `${TEXT}`; a dollar sign after a backslash
begins none, and both characters stay for the words to read.
-/
namespace LineShell

/-- A stretch of a line: kept as it is, or a variable to look up. -/
inductive Piece where
  | copied (text : List Char)
  | reference (name : List Char)
  deriving DecidableEq, Repr

def isNameChar (c : Char) : Bool :=
  c.isAlphanum || c = '_'

/-- The piece that begins with a dollar sign, given what follows the sign. -/
def dollarPiece (rest : List Char) : Piece × List Char :=
  match rest with
  | '\x7b' :: inside =>
      match Text.cut? '\x7d' inside with
      | some ([], after) => (.copied ['$', '\x7b', '\x7d'], after)
      | some (body, after) => (.reference body, after)
      | none => (.copied ['$'], rest)
  | _ =>
      match rest.takeWhile isNameChar with
      | [] => (.copied ['$'], rest)
      | name => (.reference name, rest.dropWhile isNameChar)

/-- The first piece of a line that begins with `c`, and the rest of the line. -/
def nextPiece (c : Char) (rest : List Char) : Piece × List Char :=
  if c = '\\' ∧ rest.head? = some '$' then (.copied ['\\', '$'], rest.tail)
  else if c = '$' then dollarPiece rest
  else (.copied [c], rest)

theorem length_dollarPiece_le (rest : List Char) :
    (dollarPiece rest).2.length ≤ rest.length := by
  unfold dollarPiece
  split
  · next inside =>
      split
      · next h => have := Text.length_after_lt h; simp only [List.length_cons]; omega
      · next h => have := Text.length_after_lt h; simp only [List.length_cons]; omega
      · exact Nat.le_refl _
  · split
    · exact Nat.le_refl _
    · exact (List.dropWhile_sublist _).length_le

theorem length_nextPiece_le (c : Char) (rest : List Char) :
    (nextPiece c rest).2.length ≤ rest.length := by
  unfold nextPiece
  split
  · simp
  · split
    · exact length_dollarPiece_le rest
    · exact Nat.le_refl _

/-- The pieces of a text after those before it, which come newest first. -/
def piecesAfter (before : List Piece) : List Char → List Piece
  | [] => before.reverse
  | c :: rest => piecesAfter ((nextPiece c rest).1 :: before) (nextPiece c rest).2
termination_by text => text.length
decreasing_by exact Nat.lt_succ_of_le (length_nextPiece_le c rest)

def pieces (text : List Char) : List Piece :=
  piecesAfter [] text

theorem piecesAfter_eq (before : List Piece) (text : List Char) :
    piecesAfter before text = before.reverse ++ pieces text := by
  induction hn : text.length using Nat.strongRecOn generalizing before text with
  | ind n ih =>
      cases text with
      | nil => simp [pieces, piecesAfter]
      | cons c rest =>
          subst hn
          have shorter := Nat.lt_succ_of_le (length_nextPiece_le c rest)
          have step := fun before => ih _ shorter before _ rfl
          simp only [pieces, piecesAfter] at step ⊢
          rw [step, step [_]]
          simp

@[simp] theorem pieces_nil : pieces [] = [] := by
  simp [pieces, piecesAfter]

theorem pieces_cons (c : Char) (rest : List Char) :
    pieces (c :: rest) = (nextPiece c rest).1 :: pieces (nextPiece c rest).2 := by
  rw [pieces, piecesAfter, piecesAfter_eq]
  rfl

/-- What a piece becomes; an unset variable becomes nothing. -/
def Piece.value (lookup : String → Option String) : Piece → String
  | .copied text => String.ofList text
  | .reference name => (lookup (String.ofList name)).getD ""

def Piece.name? : Piece → Option String
  | .copied _ => none
  | .reference name => some (String.ofList name)

/-- The line with every reference replaced by its value. -/
def expandVariables (lookup : String → Option String) (line : String) : String :=
  String.join ((pieces line.toList).map (Piece.value lookup))

/-- The names that a line refers to, in order. -/
def references (line : String) : List String :=
  (pieces line.toList).filterMap Piece.name?

end LineShell

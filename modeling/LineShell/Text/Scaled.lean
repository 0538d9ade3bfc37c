import LineShell.Text.Numeral

/-!
Numbers with a fraction and an exponent in text, decimal or hexadecimal. What is read is exact: a
whole number times a power of a base.
-/
namespace LineShell.Text

/-- A whole number times a power of a base. -/
structure Scaled where
  whole : Nat
  base : Nat
  exponent : Int
  deriving DecidableEq, Repr

/-- How numbers are written: the base of their digits, and for the exponent its base, the power of
that in a digit, and the small letter that it begins with. -/
structure Spelling where
  base : Nat
  isDigit : Char → Bool
  scale : Nat
  places : Nat
  mark : Char

namespace Spelling

def decimal : Spelling :=
  { base := 10, isDigit := Char.isDigit, scale := 10, places := 1, mark := 'e' }

def hexadecimal : Spelling :=
  { base := 16, isDigit := isHex, scale := 2, places := 4, mark := 'p' }

/-- An exponent at the front of a text, if there is one, and the text after it. -/
def exponent (mark : Char) (text : List Char) : Int × List Char :=
  match text with
  | [] => (0, [])
  | c :: rest =>
      let sign := rest.take 1
      let signed := sign = ['-'] ∨ sign = ['+']
      let after := if signed then rest.drop 1 else rest
      match natural? (after.takeWhile Char.isDigit) with
      | some n =>
          if c.toLower ≠ mark then (0, text)
          else (if sign = ['-'] then -n else n, after.dropWhile Char.isDigit)
      | none => (0, text)

def scaled? (s : Spelling) (text : List Char) : Option (Scaled × List Char) :=
  let whole := text.takeWhile s.isDigit
  let after := text.drop whole.length
  let (fraction, after) := match after with
    | '.' :: rest => (rest.takeWhile s.isDigit, rest.dropWhile s.isDigit)
    | _ => ([], after)
  if whole = [] ∧ fraction = [] then none
  else
    let (power, after) := exponent s.mark after
    let value : Scaled :=
      { whole := valueIn s.base (whole ++ fraction), base := s.scale
        exponent := power - s.places * fraction.length }
    some (value, after)

end Spelling

/-- A number in either spelling at the front of a text, and the text after it. -/
def scaled? (text : List Char) : Option (Scaled × List Char) :=
  let hexadecimal? := match text with
    | '0' :: x :: rest => if x.toLower = 'x' then Spelling.hexadecimal.scaled? rest else none
    | _ => none
  hexadecimal? <|> Spelling.decimal.scaled? text

end LineShell.Text

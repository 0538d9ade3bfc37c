import LineShell.Text.Scaled

/-!
Floating-point numbers of 64 bits, read from text and written in it. Reading takes the nearest
number and writing is exact up to the last digit asked for; of two that are equally near, the even
one is taken.
-/
namespace LineShell.Text

/-- A floating-point number. One that is finite is `whole * 2 ^ exponent`, with a whole part of 53
bits, or of less with the least exponent. -/
inductive Double where
  | finite (negative : Bool) (whole : Nat) (exponent : Int)
  | infinite (negative : Bool)
  | notANumber (negative : Bool)

/-- The quotient to the nearest whole number, to the even one of two. -/
def nearestQuotient (n d : Nat) : Nat :=
  let q := n / d
  let r := n % d
  if 2 * r < d ∨ (2 * r = d ∧ q % 2 = 0) then q else q + 1

namespace Double

def leastExponent : Int := -1074

/-- The least whole part that uses all bits. -/
def leastWhole : Nat := Nat.pow 2 52

def twos (exponent : Int) : Nat × Nat :=
  (Nat.pow 2 exponent.toNat, Nat.pow 2 (-exponent).toNat)

def fraction (n : Scaled) : Nat × Nat :=
  (n.whole * n.base.pow n.exponent.toNat, n.base.pow (-n.exponent).toNat)

/-- The number nearest to a fraction, and whether it was too large or too small to be kept with all
bits. -/
def ofFraction (negative : Bool) (n d : Nat) : Double × Bool :=
  if n = 0 then (.finite negative 0 leastExponent, false)
  else
    let guess : Int := (n.log2 : Int) - d.log2 - 52
    let quotient := fun (exponent : Int) =>
      let (up, down) := twos exponent
      (n * down, d * up)
    let (n₀, d₀) := quotient guess
    let exponent := max leastExponent (if n₀ / d₀ < leastWhole then guess - 1 else guess)
    let (n₁, d₁) := quotient exponent
    let nearest := nearestQuotient n₁ d₁
    let (whole, exponent) :=
      if nearest = 2 * leastWhole then (leastWhole, exponent + 1) else (nearest, exponent)
    if 971 < exponent then (.infinite negative, true)
    else (.finite negative whole exponent, whole < leastWhole && n₁ % d₁ ≠ 0)

/-- The number nearest to a scaled one. Exponents that are far out of range are not worked out. -/
def ofScaled (negative : Bool) (n : Scaled) : Double × Bool :=
  if n.whole = 0 then (.finite negative 0 leastExponent, false)
  else if 1100 < n.exponent then (.infinite negative, true)
  else if n.exponent < -(2000 + n.whole.log2) then (.finite negative 0 leastExponent, true)
  else
    let (above, below) := fraction n
    ofFraction negative above below

/-- What stands between parentheses after the word for what is no number. -/
def remark (text : List Char) : List Char :=
  match text with
  | '(' :: rest =>
      match rest.dropWhile fun c => c.isAlphanum || c = '_' with
      | ')' :: after => after
      | _ => text
  | _ => text

/-- A number without a sign at the front of a text, whether it is out of range, and the text after
it. -/
def read? (negative : Bool) (text : List Char) : Option (Double × Bool × List Char) :=
  let lower := text.map Char.toLower
  match ["infinity", "inf"].find? fun word => word.toList.isPrefixOf lower with
  | some word => some (.infinite negative, false, text.drop word.length)
  | none =>
      if "nan".toList.isPrefixOf lower then
        some (.notANumber negative, false, remark (text.drop 3))
      else do
        let (n, rest) ← scaled? text
        let (value, isOut) := ofScaled negative n
        pure (value, isOut, rest)

def isNegative : Double → Bool
  | .finite negative .. | .infinite negative | .notANumber negative => negative

def isFinite : Double → Bool
  | .finite .. => true
  | _ => false

/-- How digits are laid out: in a form of its own, or as a whole with a fraction, or with an
exponent, whichever is shorter. -/
inductive Form where
  | fixed
  | scientific
  | shorter
  | hexadecimal
  deriving DecidableEq

/-- Digits with a point before the last `places` of them. -/
def point (keep : Bool) (places : Nat) (digits : List Char) : List Char :=
  let digits := List.replicate (places + 1 - digits.length) '0' ++ digits
  let (whole, fraction) := digits.splitAt (digits.length - places)
  whole ++ if fraction = [] ∧ !keep then [] else '.' :: fraction

/-- Takes zeros off the end of a fraction, and its point if nothing is left. -/
def withoutZeros (text : List Char) : List Char :=
  if text.contains '.' then
    let text := (text.reverse.dropWhile (· = '0')).reverse
    if text.getLast? = some '.' then text.dropLast else text
  else text

def signedExponent (exponent : Int) (least : Nat) : List Char :=
  let digits := (toString exponent.natAbs).toList
  (if exponent < 0 then '-' else '+') ::
    List.replicate (least - digits.length) '0' ++ digits

/-- The digits of `whole * 2 ^ exponent` with so many of them after the point. -/
def fixedDigits (places whole : Nat) (exponent : Int) : List Char :=
  let (up, down) := twos exponent
  Nat.toDigits 10 (nearestQuotient (whole * up * Nat.pow 10 places) down)

/-- The first digits of `whole * 2 ^ exponent`, one and `places` more, and the power of ten that the
first one counts. -/
def leadingDigits (places whole : Nat) (exponent : Int) : List Char × Int :=
  if whole = 0 then (List.replicate (places + 1) '0', 0)
  else
    let (up, down) := twos exponent
    let (n, d) := (whole * up, down)
    let below : Int := (Nat.toDigits 10 (n / d)).length - 1
    let power : Int :=
      if d ≤ n then below else -(Nat.toDigits 10 ((d + n - 1) / n - 1)).length
    let shift := power - places
    let digits := Nat.toDigits 10
      (nearestQuotient (n * Nat.pow 10 (-shift).toNat) (d * Nat.pow 10 shift.toNat))
    if digits.length = places + 2 then (digits.dropLast, power + 1) else (digits, power)

def scientific (keep : Bool) (places whole : Nat) (exponent : Int) : List Char × List Char :=
  let (digits, power) := leadingDigits places whole exponent
  (point keep places digits, 'e' :: signedExponent power 2)

/-- Hexadecimal digits, of which the first is one if all bits are used. -/
def hexadecimalText (keep : Bool) (precision : Option Nat) (whole : Nat) (exponent : Int) :
    List Char :=
  let power := if whole = 0 then 0 else exponent + 52
  let digits := fun (places : Nat) =>
    Nat.toDigits 16 (nearestQuotient (whole * Nat.pow 16 places) (Nat.pow 16 13))
  let text := match precision with
    | some places => point keep places (digits places)
    | none =>
        let text := withoutZeros (point false 13 (digits 13))
        if keep ∧ !text.contains '.' then text ++ ['.'] else text
  text ++ 'p' :: signedExponent power 1

/-- A number without its sign. `keep` keeps a point with nothing after it, and zeros at the end
where they would go. -/
def text (form : Form) (keep : Bool) (precision : Option Nat) : Double → List Char
  | .infinite _ => "inf".toList
  | .notANumber _ => "nan".toList
  | .finite _ whole exponent =>
      let places := precision.getD 6
      match form with
      | .fixed => point keep places (fixedDigits places whole exponent)
      | .scientific =>
          let (digits, power) := scientific keep places whole exponent
          digits ++ power
      | .hexadecimal => hexadecimalText keep precision whole exponent
      | .shorter =>
          let size := max places 1
          let power := (leadingDigits (size - 1) whole exponent).2
          let trim := if keep then id else withoutZeros
          if -4 ≤ power ∧ power < size then
            let places := (size - 1 - power).toNat
            trim (point keep places (fixedDigits places whole exponent))
          else
            let (digits, power) := scientific keep (size - 1) whole exponent
            trim digits ++ power

end Double

end LineShell.Text

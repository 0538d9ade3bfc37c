import LineShell.Machine.Arithmetic
import LineShell.Machine.Builtin.Escape
import LineShell.Text.Double

/-!
Formatted output of the command language. The format is used again until the arguments are used
up; an argument that is missing counts as empty, or as zero.
-/
namespace LineShell.Machine

/-- How an argument is put into a text. -/
structure Directive where
  left : Bool := false
  signed : Bool := false
  spaced : Bool := false
  zeros : Bool := false
  marked : Bool := false
  width : Nat := 0
  precision : Option Nat := none

/-- A formatted text under construction. -/
structure Formatting where
  args : List ByteText
  /-- The pieces of the text, the newest first. -/
  pieces : List ByteText := []
  /-- What was wrong with arguments, the newest first. -/
  warnings : List ByteText := []
  /-- What ends the text before the end of the format: an argument, or a directive that is none. -/
  cut : Bool := false
  problem : Option ByteText := none

namespace Formatting

def pad (d : Directive) (text : ByteText) : ByteText :=
  let gap := "".pushn ' ' (d.width - text.length)
  if d.left then text ++ gap else gap ++ text

def padNumber (d : Directive) (front digits : ByteText) : ByteText :=
  let digits := match d.precision with
    | some n => if n = 0 ∧ digits = "0" then "" else "".pushn '0' (n - digits.length) ++ digits
    | none => digits
  let size := front.length + digits.length
  if d.zeros ∧ !d.left ∧ d.precision.isNone then
    front ++ "".pushn '0' (d.width - size) ++ digits
  else pad d (front ++ digits)

def next (f : Formatting) : ByteText × Formatting :=
  (f.args.headD "", { f with args := f.args.tail })

def leading (text : List Char) : Option (Int × List Char) :=
  let trimmed := text.dropWhile Arithmetic.isBlank
  let (negative, digits) := match trimmed with
    | '-' :: digits => (true, digits)
    | '+' :: digits => (false, digits)
    | digits => (false, digits)
  if digits.head?.any Char.isDigit then
    let (n, rest) := Arithmetic.number digits
    some (if negative then -n else n, rest)
  else none

def warn (f : Formatting) (arg problem : ByteText) : Formatting :=
  { f with warnings := (arg ++ ": " ++ problem) :: f.warnings }

/-- The next argument as a number, from a reader that also tells whether it is out of range. One
that is none, or does not fit, is warned of; one that is empty counts as zero, and after a quote
stands a character. -/
def nextValue (f : Formatting) (ofCode : Nat → α)
    (read : List Char → Option (α × Bool × List Char)) : α × Formatting :=
  match f.args with
  | [] => (ofCode 0, f)
  | arg :: args =>
      let f := { f with args }
      match arg.toList with
      | '\'' :: rest | '"' :: rest => (ofCode ((rest.head?.map Char.toNat).getD 0), f)
      | text =>
          match read text with
          | none => (ofCode 0, if text = [] then f else f.warn arg "expected numeric value")
          | some (value, isOut, rest) =>
              if rest ≠ [] then (value, f.warn arg "not completely converted")
              else if isOut then (value, f.warn arg "Numerical result out of range")
              else (value, f)

def nextNumber (f : Formatting) (fit : Int → Int) : Int × Formatting :=
  f.nextValue (fun code => (code : Int)) fun text =>
    (leading text).map fun (n, rest) => (fit n, fit n ≠ n, rest)

def nextDouble (f : Formatting) : Text.Double × Formatting :=
  let ofCode := fun code => (Text.Double.ofFraction false code 1).1
  f.nextValue ofCode fun text =>
    match text.dropWhile Arithmetic.isBlank with
    | '-' :: digits => Text.Double.read? true digits
    | '+' :: digits => Text.Double.read? false digits
    | digits => Text.Double.read? false digits

/-- The next argument as a signed number of 64 bits. -/
def nextSigned (f : Formatting) : Int × Formatting :=
  f.nextNumber fun n => max Int64.minValue.toInt (min n Int64.maxValue.toInt)

/-- The next argument as a number of 64 bits, into which negative ones wrap. -/
def nextUnsigned (f : Formatting) : Nat × Formatting :=
  let (n, f) := f.nextNumber fun n => if n.natAbs < UInt64.size then n else UInt64.size - 1
  ((n % UInt64.size).toNat, f)

def emit (f : Formatting) (text : ByteText) : Formatting :=
  { f with pieces := text :: f.pieces }

def digitsOf (base : Nat) (n : Nat) : ByteText :=
  String.ofList (Nat.toDigits base n)

/-- Octal digits, which begin with a zero if they are to be marked. -/
def octal (d : Directive) (n : Nat) : ByteText :=
  let digits := digitsOf 8 n
  if !d.marked then padNumber d "" digits
  else
    let isFilled := n = 0 ∨ digits.length < d.precision.getD 0
    padNumber { d with precision := d.precision.map (max 1) } (if isFilled then "" else "0") digits

def sign (d : Directive) (negative : Bool) : ByteText :=
  if negative then "-" else if d.signed then "+" else if d.spaced then " " else ""

def double (f : Formatting) (d : Directive) (form : Text.Double.Form)
    (change : String → String) : Formatting :=
  let (value, f) := f.nextDouble
  let mark := if form = .hexadecimal ∧ value.isFinite then change "0x" else ""
  let digits := change (String.ofList (value.text form d.marked d.precision))
  let d := { d with zeros := d.zeros && value.isFinite, precision := none }
  f.emit (padNumber d (sign d value.isNegative ++ mark) digits)

/-- An argument in the form that a letter asks for; none if the letter is no directive. -/
def convert? (f : Formatting) (d : Directive) (letter : Char) : Option Formatting :=
  let cut := fun (text : ByteText) => match d.precision with
    | some n => String.ofList (text.toList.take n)
    | none => text
  let hexadecimal := fun (mark : String) (change : String → String) =>
    let (n, f) := f.nextUnsigned
    let front := if d.marked ∧ n ≠ 0 then mark else ""
    some (f.emit (padNumber d front (change (digitsOf 16 n))))
  match letter with
  | 's' =>
      let (arg, f) := f.next
      some (f.emit (pad d (cut arg)))
  | 'b' =>
      let (arg, f) := f.next
      let (text, ends) := Escape.replace arg
      some { f.emit (pad d (cut text)) with cut := ends }
  | 'c' =>
      let (arg, f) := f.next
      some (f.emit (pad d (arg.toList.headD '\x00').toString))
  | 'd' | 'i' =>
      let (n, f) := f.nextSigned
      some (f.emit (padNumber d (sign d (n < 0)) (digitsOf 10 n.natAbs)))
  | 'u' =>
      let (n, f) := f.nextUnsigned
      some (f.emit (padNumber d "" (digitsOf 10 n)))
  | 'o' =>
      let (n, f) := f.nextUnsigned
      some (f.emit (octal d n))
  | 'x' => hexadecimal "0x" id
  | 'X' => hexadecimal "0X" (·.map Char.toUpper)
  | 'f' | 'F' => some (f.double d .fixed (if letter = 'f' then id else (·.map Char.toUpper)))
  | 'e' => some (f.double d .scientific id)
  | 'E' => some (f.double d .scientific (·.map Char.toUpper))
  | 'g' => some (f.double d .shorter id)
  | 'G' => some (f.double d .shorter (·.map Char.toUpper))
  | 'a' => some (f.double d .hexadecimal id)
  | 'A' => some (f.double d .hexadecimal (·.map Char.toUpper))
  | _ => none

def flags (d : Directive) : List Char → Directive × List Char
  | '-' :: rest => flags { d with left := true } rest
  | '+' :: rest => flags { d with signed := true } rest
  | ' ' :: rest => flags { d with spaced := true } rest
  | '0' :: rest => flags { d with zeros := true } rest
  | '#' :: rest => flags { d with marked := true } rest
  | rest => (d, rest)

/-- A number in a directive, or an asterisk for one among the arguments, of which 32 bits count. -/
def count (f : Formatting) (text : List Char) : Int × Formatting × List Char :=
  match text with
  | '*' :: rest =>
      let (n, f) := f.nextSigned
      (n.bmod UInt32.size, f, rest)
  | _ =>
      let ds := text.takeWhile Char.isDigit
      (ds.foldl (fun n d => 10 * n + (d.toNat - 48)) 0, f, text.drop ds.length)

/-- A directive after its percent sign: what it asks for, and the letter and the text after it. -/
def directive (f : Formatting) (text : List Char) : Directive × Formatting × List Char :=
  let (d, rest) := flags {} text
  let (width, f, rest) := f.count rest
  let d := { d with width := width.natAbs, left := d.left || width < 0 }
  match rest with
  | '.' :: rest =>
      let (precision, f, rest) := f.count rest
      ({ d with precision := if precision < 0 then none else some precision.toNat }, f, rest)
  | rest => (d, f, rest)

def pass (f : Formatting) : (fuel : Nat) → List Char → Formatting
  | 0, _ | _ + 1, [] => f
  | fuel + 1, '\\' :: rest =>
      let (c, rest) := Escape.read rest
      (f.emit c.toString).pass fuel rest
  | fuel + 1, '%' :: '%' :: rest => (f.emit "%").pass fuel rest
  | fuel + 1, '%' :: rest =>
      let (d, f, after) := f.directive rest
      match after with
      | [] => { f with problem := some "missing format character" }
      | letter :: after =>
          match f.convert? d letter with
          | none =>
              let whole := ('%' :: rest).take (rest.length - after.length + 1)
              { f with problem := some (String.ofList whole ++ ": invalid directive") }
          | some f => if f.cut then f else f.pass fuel after
  | fuel + 1, c :: rest => (f.emit c.toString).pass fuel rest

/-- Goes through the format as long as it uses arguments and there are any. -/
def passes (format : List Char) : (fuel : Nat) → Formatting → Formatting
  | 0, f => f
  | fuel + 1, f =>
      let after := f.pass (format.length + 1) format
      let isLast := after.args = [] || after.args.length = f.args.length
      if after.cut || after.problem.isSome || isLast then after else passes format fuel after

def run (format : ByteText) (args : List ByteText) : Formatting :=
  passes format.toList (args.length + 1) { args }

def text (f : Formatting) : ByteText :=
  String.join f.pieces.reverse

end Formatting

end LineShell.Machine

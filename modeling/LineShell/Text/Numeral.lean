/-!
Numbers in text. Only ASCII digits count. Where a number may have a sign in front, and has to fit a
width, one that does not fit is no number.
-/
namespace LineShell.Text

def isOctal (c : Char) : Bool :=
  '0' ≤ c && c ≤ '7'

def isHex (c : Char) : Bool :=
  c.isDigit || ('a' ≤ c && c ≤ 'f') || ('A' ≤ c && c ≤ 'F')

def digitValue (c : Char) : Nat :=
  if c.isDigit then c.toNat - 48 else if c.isLower then c.toNat - 87 else c.toNat - 55

def valueIn (base : Nat) (digits : List Char) : Nat :=
  digits.foldl (fun n c => n * base + digitValue c) 0

def natural? (digits : List Char) : Option Nat :=
  if digits.isEmpty || !digits.all Char.isDigit then none
  else some (digits.foldl (fun n c => 10 * n + (c.toNat - 48)) 0)

def integer? : List Char → Option Int
  | '-' :: digits => (natural? digits).map fun n => -(n : Int)
  | '+' :: digits => (natural? digits).map fun n => (n : Int)
  | digits => (natural? digits).map fun n => (n : Int)

/-- A decimal integer with optional sign in the range of 64 bits. -/
def signed64? (text : String) : Option Int :=
  (integer? text.toList).filter fun n => Int64.minValue.toInt ≤ n && n ≤ Int64.maxValue.toInt

/-- A decimal number with optional plus sign of 32 bits. -/
def unsigned32? (text : String) : Option UInt32 :=
  let value := match text.toList with
    | '+' :: digits => natural? digits
    | digits => natural? digits
  (value.filter (· < UInt32.size)).map UInt32.ofNat

end LineShell.Text

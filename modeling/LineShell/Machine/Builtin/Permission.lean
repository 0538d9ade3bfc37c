import LineShell.Machine.Builtin.Action

/-!
The permissions that new files do not get, as a number of three octal digits, or in letters as those
that they do get.
-/
namespace LineShell.Machine.Builtins

open ProcessM Machine.Action

/-- The permissions of one class of users in letters. -/
def lettersOf (granted : Nat) : ByteText :=
  (if granted.testBit 2 then "r" else "") ++ (if granted.testBit 1 then "w" else "") ++
    if granted.testBit 0 then "x" else ""

def grantedText (mask : Nat) : ByteText :=
  let granted := 0o777 - mask
  ",".intercalate <| [("u", 64), ("g", 8), ("o", 1)].map fun (who, unit) =>
    who ++ "=" ++ lettersOf (granted / unit % 8)

/-- The permission that a letter stands for. -/
def permission? (letter : Char) : Option Nat :=
  [('r', 4), ('w', 2), ('x', 1)].lookup letter

def userClass? (letter : Char) : Option Nat :=
  [('u', 64), ('g', 8), ('o', 1), ('a', 73)].lookup letter

/-- What is granted after changes: after an operator come the permissions that are granted, taken
away, or granted alone. -/
def change? (units : Nat) : (fuel : Nat) → (granted : Nat) → List Char → Option Nat
  | 0, granted, _ | _ + 1, granted, [] => some granted
  | fuel + 1, granted, operator :: rest => do
      let letters := rest.takeWhile fun c => (permission? c).isSome
      let chosen := letters.foldl (fun n c => n ||| (permission? c).getD 0) 0 * units
      let granted ←
        match operator with
        | '+' => some (granted ||| chosen)
        | '-' => some (granted &&& (0o777 ^^^ chosen))
        | '=' => some ((granted &&& (0o777 ^^^ (7 * units))) ||| chosen)
        | _ => none
      change? units fuel granted (rest.drop letters.length)

/-- What is granted after changes for classes of users, with commas between them. -/
def changes? (granted : Nat) (text : List Char) : Option Nat :=
  (Text.fields ',' text).foldlM (fun granted clause =>
    let users := clause.takeWhile fun c => (userClass? c).isSome
    let units := users.foldl (fun n c => n ||| (userClass? c).getD 0) 0
    let operators := clause.drop users.length
    if operators = [] then none
    else change? (if users = [] then 73 else units) (clause.length + 1) granted operators) granted

/-- Sets or shows what new files do not get. -/
def mask (args : List ByteText) : Action := do
  let (letters, args) ← options ['S'] args
  let current := (← context).mask
  match args with
  | [] =>
      let digits := String.ofList (Nat.toDigits 8 current)
      emit <| (if letters = [] then "".pushn '0' (4 - digits.length) ++ digits
        else grantedText current) ++ "\n"
  | arg :: _ => do
      let chars := arg.toList
      let wanted ←
        if chars.head?.any Char.isDigit then
          if chars.all fun c => '0' ≤ c && c ≤ '7' then
            pure (chars.foldl (fun n c => n * 8 + (c.toNat - 48)) 0 % 0o1000)
          else throw ("Illegal number: " ++ arg)
        else
          match changes? (0o777 - current) chars with
          | some granted => pure (0o777 - granted)
          | none => throw ("Illegal mode: " ++ arg)
      modifyContext fun c => { c with mask := wanted }
      status 0

end LineShell.Machine.Builtins

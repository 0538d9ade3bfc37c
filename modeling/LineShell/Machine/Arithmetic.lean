import LineShell.Environment
import LineShell.Machine.ByteText
import LineShell.Text.Numeral

/-!
Arithmetic in scripts: expressions over signed integers of 64 bits, which wrap around, and over
variables, which may be set. What is not evaluated must still be well formed.
-/
namespace LineShell.Machine.Arithmetic

inductive Token where
  | number (n : Int)
  | name (text : String)
  | sign (text : String)
  deriving DecidableEq

/-- An expression on its way to its value: the tokens left and the variables. -/
structure State where
  tokens : List Token
  bindings : Environment

/-- Evaluation, which may fail with a description of the problem. -/
abbrev EvalM := StateT State (Except String)

def wrap (n : Int) : Int :=
  Int.bmod n UInt64.size

def most : Nat :=
  UInt64.size / 2 - 1

/-- A number at the front of a text, in base sixteen, eight or ten as it begins. -/
def number (text : List Char) : Nat × List Char :=
  match text with
  | '0' :: x :: rest =>
      if (x = 'x' ∨ x = 'X') ∧ rest.head?.any Text.isHex then split 16 Text.isHex rest
      else split 8 Text.isOctal text
  | _ => split 10 Char.isDigit text
where
  split (base : Nat) (isDigit : Char → Bool) (text : List Char) : Nat × List Char :=
    (Text.valueIn base (text.takeWhile isDigit), text.dropWhile isDigit)

/-- The signs of expressions, the longer ones first. -/
def signs : List String :=
  ["<<=", ">>=", "!=", "&&", "&=", "*=", "+=", "-=", "/=", "<<", "<=", "==", ">=", ">>", "^=",
    "||", "|=", "%=", "(", ")", "!", "&", "*", "+", "-", "/", ":", "<", "=", ">", "?", "^", "|",
    "~", "%"]

/-- The tokens of a text. A character that belongs to none is a sign without a meaning; numbers that
are too large count as the largest. -/
def tokens : (fuel : Nat) → (done : List Token) → List Char → List Token
  | 0, done, _ | _ + 1, done, [] => done.reverse
  | fuel + 1, done, c :: rest =>
      if c = ' ' ∨ c = '\t' ∨ c = '\n' then tokens fuel done rest
      else if c.isDigit then
        let (n, rest) := number (c :: rest)
        tokens fuel (.number (min n most) :: done) rest
      else if c.isAlpha ∨ c = '_' then
        let isPart := fun (c : Char) => c.isAlphanum || c = '_'
        let name := String.ofList (c :: rest.takeWhile isPart)
        tokens fuel (.name name :: done) (rest.dropWhile isPart)
      else
        let found := signs.find? fun sign => sign.toList.isPrefixOf (c :: rest)
        let sign := found.getD c.toString
        tokens fuel (.sign sign :: done) ((c :: rest).drop sign.length)

def isBlank (c : Char) : Bool :=
  c = ' ' || ('\t' ≤ c && c ≤ '\r')

/-- The number that a variable holds; nothing at all is zero. -/
def numberIn? (text : ByteText) : Option Int :=
  let trimmed := text.toList.dropWhile isBlank
  let (negative, digits) := match trimmed with
    | '-' :: digits => (true, digits)
    | '+' :: digits => (false, digits)
    | digits => (false, digits)
  if trimmed = [] then some 0
  else if !digits.head?.any Char.isDigit then none
  else
    let (n, rest) := number digits
    let value : Int := if negative then -n else n
    if rest.all isBlank ∧ wrap value = value then some value else none

def numberOf (name : String) : EvalM Int := do
  match (← get).bindings.find? name with
  | none => pure 0
  | some text =>
      match numberIn? text with
      | some n => pure n
      | none => throw ("Illegal number: " ++ text)

def assign (name : String) (value : Int) : EvalM Unit :=
  modify fun s => { s with bindings := s.bindings.set name (toString value) }

def fromBool (b : Bool) : Int :=
  if b then 1 else 0

/-- The two's complement of a number in 64 bits. -/
def bits (n : Int) : UInt64 :=
  UInt64.ofNat (n % UInt64.size).toNat

def ofBits (n : UInt64) : Int :=
  wrap n.toNat

/-- What a binary operator makes of its operands; division fails at zero. -/
def apply (sign : String) (a b : Int) : Except String Int :=
  match sign with
  | "+" => .ok (wrap (a + b))
  | "-" => .ok (wrap (a - b))
  | "*" => .ok (wrap (a * b))
  | "/" => if b = 0 then .error "division by zero" else .ok (wrap (Int.tdiv a b))
  | "%" => if b = 0 then .error "division by zero" else .ok (wrap (Int.tmod a b))
  | "<<" => .ok (ofBits (bits a <<< bits b))
  | ">>" => .ok (a >>> (bits b % 64).toNat)
  | "<" => .ok (fromBool (a < b))
  | "<=" => .ok (fromBool (a ≤ b))
  | ">" => .ok (fromBool (b < a))
  | ">=" => .ok (fromBool (b ≤ a))
  | "==" => .ok (fromBool (a = b))
  | "!=" => .ok (fromBool (a ≠ b))
  | "&" => .ok (ofBits (bits a &&& bits b))
  | "^" => .ok (ofBits (bits a ^^^ bits b))
  | "|" => .ok (ofBits (bits a ||| bits b))
  | "&&" => .ok (fromBool (a ≠ 0 && b ≠ 0))
  | "||" => .ok (fromBool (a ≠ 0 || b ≠ 0))
  | _ => .error "expecting EOF"

def strength? : String → Option Nat
  | "||" => some 1
  | "&&" => some 2
  | "|" => some 3
  | "^" => some 4
  | "&" => some 5
  | "==" | "!=" => some 6
  | "<" | "<=" | ">" | ">=" => some 7
  | "<<" | ">>" => some 8
  | "+" | "-" => some 9
  | "*" | "/" | "%" => some 10
  | _ => none

def assignment? : String → Option String
  | "=" => some ""
  | "+=" => some "+"
  | "-=" => some "-"
  | "*=" => some "*"
  | "/=" => some "/"
  | "%=" => some "%"
  | "<<=" => some "<<"
  | ">>=" => some ">>"
  | "&=" => some "&"
  | "^=" => some "^"
  | "|=" => some "|"
  | _ => none

def advance : EvalM Unit :=
  modify fun s => { s with tokens := s.tokens.tail }

/-- An operator on operands that count, or a value of no account. -/
def combine (live : Bool) (sign : String) (a b : Int) : EvalM Int :=
  if live then
    match apply sign a b with
    | .ok n => pure n
    | .error problem => throw problem
  else pure 0

mutual

def assignment : (fuel : Nat) → (live : Bool) → EvalM Int
  | 0, _ => throw "expecting primary"
  | fuel + 1, live => do
      match (← get).tokens with
      | .name name :: .sign sign :: _ =>
          match assignment? sign with
          | none => conditional fuel live
          | some operator => do
              advance
              advance
              let value ← assignment fuel live
              if !live then pure 0
              else
                let value ← if operator = "" then pure value
                  else do combine true operator (← numberOf name) value
                assign name value
                pure value
      | _ => conditional fuel live

def conditional : (fuel : Nat) → (live : Bool) → EvalM Int
  | 0, _ => throw "expecting primary"
  | fuel + 1, live => do
      let first ← primary fuel live
      let condition ← operators fuel live 1 first
      match (← get).tokens with
      | .sign "?" :: _ => do
          advance
          let yes ← assignment fuel (live && condition ≠ 0)
          match (← get).tokens with
          | .sign ":" :: _ => do
              advance
              let no ← conditional fuel (live && condition = 0)
              pure (if condition ≠ 0 then yes else no)
          | _ => throw "expecting ':'"
      | _ => pure condition

/-- Goes on with a left operand through all operators that bind at least so strongly. -/
def operators : (fuel : Nat) → (live : Bool) → (least : Nat) → Int → EvalM Int
  | 0, _, _, _ => throw "expecting primary"
  | fuel + 1, live, least, left => do
      match (← get).tokens with
      | .sign sign :: _ =>
          match (strength? sign).filter (least ≤ ·) with
          | none => pure left
          | some strength => do
              advance
              let decided := (sign = "&&" && left = 0) || (sign = "||" && left ≠ 0)
              let rightLive := live && !decided
              let first ← primary fuel rightLive
              let right ← operators fuel rightLive (strength + 1) first
              operators fuel live least (← combine live sign left right)
      | _ => pure left

def primary : (fuel : Nat) → (live : Bool) → EvalM Int
  | 0, _ => throw "expecting primary"
  | fuel + 1, live => do
      match (← get).tokens with
      | .number n :: _ => do
          advance
          pure n
      | .name name :: _ => do
          advance
          if live then numberOf name else pure 0
      | .sign "(" :: _ => do
          advance
          let value ← assignment fuel live
          match (← get).tokens with
          | .sign ")" :: _ => do
              advance
              pure value
          | _ => throw "expecting ')'"
      | .sign "-" :: _ => do
          advance
          pure (wrap (-(← primary fuel live)))
      | .sign "+" :: _ => do
          advance
          primary fuel live
      | .sign "!" :: _ => do
          advance
          pure (fromBool ((← primary fuel live) = 0))
      | .sign "~" :: _ => do
          advance
          pure (-(← primary fuel live) - 1)
      | _ => throw "expecting primary"

end

def evaluate (text : ByteText) (bindings : Environment) : Except String (Int × Environment) :=
  let report := fun (problem : String) =>
    if problem.startsWith "Illegal" then problem
    else "arithmetic expression: " ++ problem ++ ": \"" ++ text ++ "\""
  let tokens := tokens (text.length + 1) [] text.toList
  match (assignment (8 * tokens.length + 8) true).run { tokens, bindings } with
  | .error problem => .error (report problem)
  | .ok (value, { tokens := [], bindings }) => .ok (value, bindings)
  | .ok _ => .error (report "expecting EOF")

end LineShell.Machine.Arithmetic

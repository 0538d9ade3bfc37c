import LineShell.Machine.Process.Action
import LineShell.Text.Numeral

/-!
Writing the arguments to the output, with escapes replaced if that is asked for.
-/
namespace LineShell.Machine

namespace Echoing

/-- What the options of a writer ask for. -/
structure Style where
  escapes : Bool := false
  lineEnd : Bool := true
  deriving DecidableEq, Repr

def Style.read? (style : Style) (arg : ByteText) : Option Style :=
  match arg.toList with
  | '-' :: c :: rest =>
      if (c :: rest).all fun c => c = 'n' || c = 'e' || c = 'E' then
        some <| (c :: rest).foldl (fun style c =>
          if c = 'n' then { style with lineEnd := false }
          else { style with escapes := c = 'e' }) style
      else none
  | _ => none

def readAll (style : Style) : List ByteText → Style × List ByteText
  | [] => (style, [])
  | arg :: rest =>
      match style.read? arg with
      | some style => readAll style rest
      | none => (style, arg :: rest)

def byte (base : Nat) (digits : List Char) : Char :=
  Char.ofNat (Text.valueIn base digits % 256)

def control? (c : Char) : Option Char :=
  match c with
  | 'a' => some '\x07'
  | 'b' => some '\x08'
  | 'e' => some '\x1b'
  | 'f' => some '\x0c'
  | 'n' => some '\n'
  | 'r' => some '\x0d'
  | 't' => some '\t'
  | 'v' => some '\x0b'
  | '\\' => some '\\'
  | _ => none

/-- Digits of a number at the front of a text, no more than a few. -/
def digits (isDigit : Char → Bool) (most : Nat) (text : List Char) : List Char :=
  (text.takeWhile isDigit).take most

/-- The text after its escapes are replaced, the newest character first, and whether it was cut
short by one. -/
def unescape : (fuel : Nat) → (done : List Char) → List Char → List Char × Bool
  | 0, done, _ | _ + 1, done, [] => (done, false)
  | fuel + 1, done, '\\' :: c :: rest =>
      if c = 'c' then (done, true)
      else if c = 'x' ∧ rest.head?.any Text.isHex then
        let ds := digits Text.isHex 2 rest
        unescape fuel (byte 16 ds :: done) (rest.drop ds.length)
      else if Text.isOctal c then
        let ds := if c = '0' then digits Text.isOctal 3 rest else digits Text.isOctal 3 (c :: rest)
        let rest := if c = '0' then rest.drop ds.length else (c :: rest).drop ds.length
        unescape fuel (byte 8 ds :: done) rest
      else
        match control? c with
        | some d => unescape fuel (d :: done) rest
        | none => unescape fuel (c :: '\\' :: done) rest
  | fuel + 1, done, c :: rest => unescape fuel (c :: done) rest

def text (args : List ByteText) : ByteText :=
  let (style, args) := readAll {} args
  let plain := " ".intercalate args
  let lineEnd := if style.lineEnd then "\n" else ""
  if style.escapes then
    let (chars, cut) := unescape (plain.length + 1) [] plain.toList
    String.ofList chars.reverse ++ (if cut then "" else lineEnd)
  else plain ++ lineEnd

open ProcessM

def run (args : List ByteText) : ProcessM Unit := do
  let text := text args
  match ← if text = "" then pure (.ok ()) else writeText 1 text with
  | .ok _ => setStatus 0
  | .error e => do
      complainOf "write error" e.text
      setStatus 1

end Echoing

end LineShell.Machine

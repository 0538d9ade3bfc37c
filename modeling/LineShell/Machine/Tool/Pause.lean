import LineShell.Machine.Process.Action
import LineShell.Machine.Tool.Naming
import LineShell.Machine.Tool.Options
import LineShell.Text.Scaled

/-!
Pausing for a time, the sum of the durations given. A duration is a number, decimal or hexadecimal,
that may have an exponent and a unit, or is infinite.
-/
namespace LineShell.Machine

namespace Pausing

def forever : Nat := Nat.pow 10 24

/-- The microseconds in so many times `unit` seconds, rounded up. -/
def microseconds (n : Text.Scaled) (unit : Nat) : Nat :=
  let scaled := n.whole * unit * 1000000
  if n.whole = 0 then 0
  else if 100 < n.exponent then forever
  else if 0 ≤ n.exponent then scaled * n.base.pow n.exponent.toNat
  else if n.exponent < -1000000 then 1
  else
    let parts := n.base.pow n.exponent.natAbs
    (scaled + parts - 1) / parts

def unit? : List Char → Option Nat
  | [] | ['s'] => some 1
  | ['m'] => some 60
  | ['h'] => some 3600
  | ['d'] => some 86400
  | _ => none

/-- Microseconds in a duration such as `0.5` or `2m`. -/
def duration? (text : ByteText) : Option Nat := do
  let trimmed := text.toList.dropWhile fun c => c = ' ' || ('\t' ≤ c && c ≤ '\x0d')
  let unsigned := match trimmed with
    | '+' :: rest => rest
    | rest => rest
  let lower := unsigned.map Char.toLower
  let endless := ["infinity", "inf"].find? fun word => word.toList.isPrefixOf lower
  match endless with
  | some word => do
      let _ ← unit? (unsigned.drop word.length)
      pure forever
  | none => do
      let (n, rest) ← Text.scaled? unsigned
      pure (microseconds n (← unit? rest))

open ProcessM

def complainOfAll : List ByteText → ProcessM Unit
  | [] => pure ()
  | arg :: rest => do
      complain ((← context).name ++ ": invalid time interval " ++ Naming.text arg)
      complainOfAll rest

def run (args : List ByteText) : ProcessM Unit := do
  match ({ letters := [], words := [] } : Options).read args with
  | .error problem => misused problem
  | .ok (_, []) => misused "missing operand"
  | .ok (_, operands) => do
      let bad := operands.filter fun arg => (duration? arg).isNone
      if bad = [] then
        setStatus 0
        push [.wake ((operands.filterMap duration?).foldl (· + ·) (← get).machine.clock)]
      else
        complainOfAll bad
        let name := (← context).name
        complain ("Try '" ++ name ++ " --help' for more information.")
        setStatus 1

end Pausing

end LineShell.Machine

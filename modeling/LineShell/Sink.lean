import LineShell.IoError
import LineShell.Text.Utf8

/-!
A place in memory to write to, with room for everything or for a number of bytes. A write that
does not fit keeps what fits and fails; after it nothing is taken.
-/
namespace LineShell

/-- Writes text in a state, which may fail. -/
abbrev Writer (σ : Type) := String → σ → Except IoError Unit × σ

structure Sink where
  limit : Option Nat := none
  accepted : Bytes := []
  deriving DecidableEq, Repr

namespace Sink

def write (text : String) (s : Sink) : Except IoError Unit × Sink :=
  let whole := s.accepted ++ Bytes.ofString text
  match s.limit with
  | none => (.ok (), { s with accepted := whole })
  | some limit =>
      if whole.length ≤ limit then (.ok (), { s with accepted := whole })
      else (.error .closed, { s with accepted := whole.take limit })

end Sink

end LineShell

import LineShell.Text.Cluster

/-!
Lines as they are typed. A backspace takes back what was typed before it, and is no part of the
line.
-/
namespace LineShell.Text

/-- A line being typed: the characters that are kept, the newest first, and the width of each
cluster among them. A width is kept in eight bits, in which that of a very long cluster does not
fit. -/
structure Typing where
  kept : List Char := []
  widths : List UInt8 := []
  deriving DecidableEq, Repr

/-- Takes so many bytes from the front, which must end where a character does. -/
def dropBytes? : (count : Nat) → List Char → Option (List Char)
  | 0, text => some text
  | _ + 1, [] => none
  | count + 1, c :: rest =>
      if c.utf8Size ≤ count + 1 then dropBytes? (count + 1 - c.utf8Size) rest else none

namespace Typing

/-- Takes back the last cluster, if there is one. -/
def erase? (t : Typing) : Option Typing :=
  match t.widths with
  | [] => some t
  | width :: widths =>
      (dropBytes? width.toNat t.kept).map fun kept => { kept, widths }

def type? (t : Typing) (cluster : List Char) : Option Typing :=
  if cluster = ['\x08'] then t.erase?
  else
    let width := cluster.foldl (fun n c => n + c.utf8Size) 0
    some { kept := cluster.reverse ++ t.kept, widths := width.toUInt8 :: t.widths }

end Typing

/-- The line without its end: a newline, and a carriage return before it. -/
def withoutEnd (line : List Char) : List Char :=
  match line.reverse with
  | '\n' :: '\r' :: rest | '\n' :: rest => rest.reverse
  | _ => line

/-- The line that was meant by what was typed. There is none if a backspace would have to take
part of a character. -/
def typedLine? (typed : String) : Option String :=
  ((clusters (withoutEnd typed.toList)).foldlM Typing.type? {}).map fun t =>
    String.ofList t.kept.reverse

end LineShell.Text

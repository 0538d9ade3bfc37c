/-!
Sets of code points as ranges.
-/
namespace LineShell.Text

/-- Whether a code point lies in one of the ranges, which hold both of their ends. -/
def inRanges (ranges : List (Nat × Nat)) (n : Nat) : Bool :=
  ranges.any fun (first, last) => first ≤ n && n ≤ last

end LineShell.Text

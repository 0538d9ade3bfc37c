import LineShell.Text.Cluster.Property

/-!
Text as clusters: the stretches that a reader takes for one character. A cluster is a letter with
its marks, a syllable of Hangul, a pair of halves of a flag, pictographs with joiners between them,
or a conjunct. A boundary between two characters depends on the second and on a few facts about
what stands before it.
-/
namespace LineShell.Text.Cluster

/-- The facts about a text that decide whether the next character goes on with its last cluster. -/
structure Trail where
  last : BreakClass := .control
  /-- Whether half of a flag waits for the other one. -/
  halfFlag : Bool := false
  /-- Whether a pictograph with its marks stands at the end. -/
  pictograph : Bool := false
  /-- Whether a pictograph with its marks and a joiner stands at the end. -/
  joined : Bool := false
  /-- Whether a consonant with the marks of a conjunct stands at the end. -/
  consonant : Bool := false
  /-- Whether there is a linker among these marks. -/
  linked : Bool := false
  deriving DecidableEq, Repr

namespace Trail

def next (t : Trail) (c : Char) : Trail :=
  let cls := breakClass c
  let part := conjunctPart c
  { last := cls
    halfFlag := cls = .regional && !t.halfFlag
    pictograph := isPictograph c || (cls = .extend && t.pictograph)
    joined := cls = .joiner && t.pictograph
    consonant := part = .consonant || (part ≠ .none && t.consonant)
    linked := part ≠ .none && part ≠ .consonant && t.consonant && (part = .linker || t.linked) }

/-- Whether a character goes on with the last cluster. -/
def joins (t : Trail) (c : Char) : Bool :=
  match t.last, breakClass c with
  | .control, _ | _, .control => false
  | _, .extend | _, .joiner | _, .spacing | .prepended, _ => true
  | .hangulL, .hangulL | .hangulL, .hangulV | .hangulL, .hangulLV | .hangulL, .hangulLVT => true
  | .hangulV, .hangulV | .hangulV, .hangulT | .hangulLV, .hangulV | .hangulLV, .hangulT => true
  | .hangulT, .hangulT | .hangulLVT, .hangulT => true
  | .regional, .regional => t.halfFlag
  | _, _ =>
      (t.joined && isPictograph c) ||
        (t.linked && decide (conjunctPart c = ConjunctPart.consonant))

end Trail

/-- A text read from the left: the clusters that are finished, the newest first, and the one that
is open, its newest character first. -/
structure Reading where
  trail : Trail := {}
  finished : List (List Char) := []
  current : List Char := []
  deriving DecidableEq, Repr

namespace Reading

def close (r : Reading) : Reading :=
  if r.current.isEmpty then r
  else { r with finished := r.current.reverse :: r.finished, current := [] }

def step (r : Reading) (c : Char) : Reading :=
  let r := if r.trail.joins c then r else r.close
  { r with trail := r.trail.next c, current := c :: r.current }

end Reading

end Cluster

def clusters (text : List Char) : List (List Char) :=
  (text.foldl Cluster.Reading.step {}).close.finished.reverse

end LineShell.Text

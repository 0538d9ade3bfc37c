import LineShell.Expansion.Variables

/-!
Regular expressions, as far as one for references needs them. Of two alternatives the first is
preferred, of the runs of a class the longest. A text is searched from the left and the search goes
on behind each match, so matches do not overlap and what replaces them is not searched.
-/
namespace LineShell

inductive Regex where
  | one (allowed : Char → Bool)
  | many (allowed : Char → Bool)
  | seq (first second : Regex)
  | either (first second : Regex)
  | group (index : Nat) (inside : Regex)

/-- A match at the beginning of a text: what it takes, its groups, and what is left. -/
structure Hit where
  taken : List Char
  groups : List (Nat × List Char) := []
  left : List Char
  deriving DecidableEq, Repr

namespace Hit

def after (hit : Hit) (c : Char) : Hit :=
  { hit with taken := c :: hit.taken }

def andThen (front back : Hit) : Hit where
  taken := front.taken ++ back.taken
  groups := front.groups ++ back.groups
  left := back.left

def named (index : Nat) (hit : Hit) : Hit :=
  { hit with groups := (index, hit.taken) :: hit.groups }

end Hit

namespace Regex
variable {σ : Type}

def literal (c : Char) : Regex :=
  one (· = c)

/-- The runs of allowed characters that a text begins with, the longest first, each with what is
left behind it. -/
def runs (allowed : Char → Bool) : List Char → List (List Char × List Char)
  | [] => [([], [])]
  | c :: rest =>
      (if allowed c then (runs allowed rest).map fun run => (c :: run.1, run.2) else []) ++
        [([], c :: rest)]

def hits : Regex → List Char → List Hit
  | one _, [] => []
  | one allowed, c :: rest => if allowed c then [{ taken := [c], left := rest }] else []
  | many allowed, text => (runs allowed text).map fun run => { taken := run.1, left := run.2 }
  | seq first second, text =>
      (first.hits text).flatMap fun front => (second.hits front.left).map front.andThen
  | either first second, text => first.hits text ++ second.hits text
  | group index inside, text => (inside.hits text).map (Hit.named index)

/-- A text with all matches replaced. A match that takes nothing is passed over. -/
def replaceAll (pattern : Regex) (replace : Hit → σ → List Char × σ) :
    List Char → σ → List Char × σ
  | [], s => ([], s)
  | c :: rest, s =>
      match _ : (pattern.hits (c :: rest)).head?.filter (·.left.length ≤ rest.length) with
      | some hit =>
          let (front, s) := replace hit s
          let (back, s) := replaceAll pattern replace hit.left s
          (front ++ back, s)
      | none =>
          let (back, s) := replaceAll pattern replace rest s
          (c :: back, s)
termination_by text => text.length
decreasing_by
  · next hit found =>
      have shorter := of_decide_eq_true (Option.filter_eq_some_iff.mp found).2
      exact Nat.lt_succ_of_le shorter
  · exact Nat.lt_succ_self _

theorem replaceAll_hit {pattern : Regex} {replace : Hit → σ → List Char × σ} {c : Char}
    {rest : List Char} {hit : Hit} (found : (pattern.hits (c :: rest)).head? = some hit)
    (shorter : hit.left.length ≤ rest.length) (s : σ) :
    pattern.replaceAll replace (c :: rest) s =
      ((replace hit s).1 ++ (pattern.replaceAll replace hit.left (replace hit s).2).1,
        (pattern.replaceAll replace hit.left (replace hit s).2).2) := by
  rw [replaceAll]
  split
  · next other same =>
      rw [found] at same
      simp only [Option.filter_some, shorter] at same
      cases same
      rfl
  · next none =>
      rw [found, Option.filter_some, if_pos (by simpa using shorter)] at none
      contradiction

theorem replaceAll_miss {pattern : Regex} {replace : Hit → σ → List Char × σ} {c : Char}
    {rest : List Char} (missed : pattern.hits (c :: rest) = []) (s : σ) :
    pattern.replaceAll replace (c :: rest) s =
      (c :: (pattern.replaceAll replace rest s).1, (pattern.replaceAll replace rest s).2) := by
  rw [replaceAll]
  split
  · next other same => simp [missed] at same
  · rfl

theorem hits_literal_seq (d : Char) (pattern : Regex) (c : Char) (rest : List Char) :
    hits (.seq (literal d) pattern) (c :: rest) =
      if c = d then (pattern.hits rest).map (·.after c) else [] := by
  by_cases same : c = d
  · simp [hits, literal, same, Hit.andThen, Hit.after]
  · simp [hits, literal, same]

theorem head?_runs (allowed : Char → Bool) (text : List Char) :
    (runs allowed text).head? = some (text.takeWhile allowed, text.dropWhile allowed) := by
  induction text with
  | nil => rfl
  | cons c rest ih =>
      cases h : allowed c with
      | false => simp [runs, h]
      | true => simp [runs, h, List.head?_append, ih]

/-- Of the runs up to a mark only the longest has the mark behind it. -/
theorem flatMap_runs (mark : Char) (f : List Char → Hit → Hit) (text : List Char) :
    (runs (· ≠ mark) text).flatMap (fun run => ((literal mark).hits run.2).map (f run.1)) =
      match Text.cut? mark text with
      | some (body, left) => [f body { taken := [mark], left }]
      | none => [] := by
  induction text generalizing f with
  | nil => rfl
  | cons c rest ih =>
      rw [Text.cut?_cons]
      by_cases same : c = mark
      · simp [runs, same, hits, literal]
      · have longer := ih fun body => f (c :: body)
        simp only [runs, same, ne_eq, not_false_eq_true, decide_true, if_true, if_false,
          List.flatMap_append, List.flatMap_map, longer]
        cases Text.cut? mark rest <;> simp [hits, literal, same]

theorem hits_upTo (index : Nat) (mark : Char) (text : List Char) :
    hits (.seq (.group index (.many (· ≠ mark))) (literal mark)) text =
      match Text.cut? mark text with
      | some (body, left) =>
          [{ taken := body ++ [mark], groups := [(index, body)], left }]
      | none => [] := by
  rw [hits, hits, hits, List.map_map, List.flatMap_map]
  exact flatMap_runs mark
    (fun body => Hit.andThen { taken := body, groups := [(index, body)], left := [] }) text

theorem head?_hits_some (index : Nat) (allowed : Char → Bool) (text : List Char) :
    (hits (.group index (.seq (.one allowed) (.many allowed))) text).head? =
      match text.takeWhile allowed with
      | [] => none
      | name =>
          some { taken := name, groups := [(index, name)], left := text.dropWhile allowed } := by
  cases text with
  | nil => rfl
  | cons c rest =>
      cases h : allowed c with
      | false => simp [hits, h]
      | true => simp [hits, h, head?_runs, Hit.andThen, Hit.named]

end Regex

end LineShell

import LineShell.Proofs.Comment.Quoting

/-!
Where a comment is cut off. As long as the scan for comments has found none it holds what the scan
for words holds after the same characters, so the place of the cut can be said with the scan for
words alone. What is left of a line begins as the line does, and is not cut again.
-/
namespace LineShell

theorem Quoting.bare_iff (q : Quoting) : q.bare = true ↔ q = {} := by
  obtain ⟨single, double, escaped⟩ := q
  cases single <;> cases double <;> cases escaped <;> decide

/-- Two quotes of different kinds are never open at once. -/
theorem Scanner.quotes_exclusive {s : Scanner} (h : s.quoting.Coherent) (text : List Char) :
    ¬((s.scan text).single = true ∧ (s.scan text).double = true) := by
  induction text generalizing s with
  | nil =>
      rintro ⟨single, double⟩
      rw [Scanner.scan_nil] at single double
      have closed : s.double = false := (h single).1
      rw [closed] at double
      contradiction
  | cons c rest ih => exact ih (coherent_step h c)

/-- A number sign that stands after `before` where the scan for words, begun in `s`, has no quote
open and no backslash waiting. -/
def BareSign (s : Scanner) (text before : List Char) : Prop :=
  (∃ after, text = before ++ '#' :: after) ∧ (s.scan before).quoting = {}

theorem bareSign_nil (s : Scanner) (before : List Char) : ¬BareSign s [] before := by
  rintro ⟨⟨after, eq⟩, -⟩
  simp at eq

theorem bareSign_here (s : Scanner) (c : Char) (rest : List Char) :
    BareSign s (c :: rest) [] ↔ c = '#' ∧ s.quoting.bare = true := by
  simp [BareSign, Quoting.bare_iff]

theorem bareSign_later (s : Scanner) (c d : Char) (rest before : List Char) :
    BareSign s (c :: rest) (d :: before) ↔ d = c ∧ BareSign (s.step c) rest before := by
  constructor
  · rintro ⟨⟨after, eq⟩, idle⟩
    obtain ⟨rfl, tails⟩ := List.cons.inj eq
    exact ⟨rfl, ⟨after, tails⟩, idle⟩
  · rintro ⟨rfl, ⟨after, rfl⟩, idle⟩
    exact ⟨⟨after, rfl⟩, idle⟩

/-- The first of the bare signs of a text is the one with the least before it. -/
theorem uncommented_eq_of_first {s : Scanner} {text before : List Char}
    (sign : BareSign s text before)
    (first : ∀ other, BareSign s text other → before.length ≤ other.length) :
    uncommented s text = before := by
  induction text generalizing s before with
  | nil => exact absurd sign (bareSign_nil s before)
  | cons c rest ih =>
      by_cases here : c = '#' ∧ s.quoting.bare = true
      · have none := first [] ((bareSign_here s c rest).mpr here)
        rw [uncommented_sign here, List.length_eq_zero_iff.mp (Nat.le_zero.mp none)]
      · cases before with
        | nil => exact absurd ((bareSign_here s c rest).mp sign) here
        | cons d later =>
            obtain ⟨rfl, sign⟩ := (bareSign_later s c d rest later).mp sign
            rw [uncommented_plain here, ih sign fun other found => ?_]
            have next := first (d :: other) ((bareSign_later s d d rest other).mpr ⟨rfl, found⟩)
            exact Nat.le_of_succ_le_succ next

theorem uncommented_eq_self_of_no_sign {s : Scanner} {text : List Char}
    (none : ∀ before, ¬BareSign s text before) : uncommented s text = text := by
  induction text generalizing s with
  | nil => rfl
  | cons c rest ih =>
      have plain := mt (bareSign_here s c rest).mpr (none [])
      rw [uncommented_plain plain, ih fun before found => ?_]
      exact none (c :: before) ((bareSign_later s c c rest before).mpr ⟨rfl, found⟩)

theorem uncommented_eq_self_of_begins {s : Scanner} {text front : List Char}
    (h : front <+: uncommented s text) : uncommented s front = front := by
  induction text generalizing s front with
  | nil => rw [List.prefix_nil.mp h, uncommented]
  | cons c rest ih =>
      by_cases here : c = '#' ∧ s.quoting.bare = true
      · rw [uncommented_sign here] at h
        rw [List.prefix_nil.mp h, uncommented]
      · rw [uncommented_plain here] at h
        cases front with
        | nil => rfl
        | cons d later =>
            obtain ⟨rfl, h⟩ := List.cons_prefix_cons.mp h
            rw [uncommented_plain here, ih h]

/-- Past characters without a comment the scan for comments goes on with their quoting. -/
theorem commentStart?_append {q : Quoting} {passed : Nat} {front : List Char}
    (h : commentStart? q passed front = none) (rest : List Char) :
    commentStart? q passed (front ++ rest) =
      commentStart? (front.foldl Quoting.step q) (passed + front.length) rest := by
  induction front generalizing q passed with
  | nil => rfl
  | cons c later ih =>
      rw [commentStart?] at h
      by_cases here : c = '#' ∧ q.bare = true
      · rw [if_pos here] at h
        contradiction
      · rw [if_neg here] at h
        rw [List.cons_append, commentStart?, if_neg here, ih h, List.foldl_cons, List.length_cons,
          Nat.add_right_comm, Nat.add_assoc]

theorem trimEnd_begins (text : List Char) : Text.trimEnd text <+: text := by
  obtain ⟨gap, -, eq⟩ := Text.eq_trimEnd_append text
  exact ⟨gap, eq.symm⟩

theorem stripComment_of_first {text before : List Char} (sign : BareSign {} text before)
    (first : ∀ other, BareSign {} text other → before.length ≤ other.length) :
    commentStart? {} 0 text = some before.length ∧
      stripComment (String.ofList text) = String.ofList (Text.trimEnd before) := by
  have code := uncommented_eq_of_first sign first
  obtain ⟨⟨after, eq⟩, -⟩ := sign
  have cut : before ≠ text := by
    rw [eq]
    simp
  have found := @commentStart?_eq {} nofun 0 text
  rw [code, if_neg cut, Nat.zero_add] at found
  refine ⟨found, ?_⟩
  rw [stripComment_ofList, code, if_neg cut]

theorem stripComment_of_uncommented {text : List Char} (h : uncommented {} text = text) :
    stripComment (String.ofList text) = String.ofList text := by
  rw [stripComment_ofList, if_pos h]

theorem stripComment_begins (text : List Char) :
    ∃ left, stripComment (String.ofList text) = String.ofList left ∧ left <+: text ∧
      left <+: uncommented {} text := by
  rw [stripComment_ofList]
  split
  · next whole => exact ⟨text, rfl, List.prefix_refl _, whole.symm ▸ List.prefix_refl _⟩
  · refine ⟨_, rfl, ?_, trimEnd_begins _⟩
    exact (trimEnd_begins _).trans (uncommented_begins _ _)

/-- The scan for comments is the scan for words without the words. After any beginning of a line
both have the same quotes open and the same backslash waiting, never two quotes at once, and the
scan for comments goes on from there if it has found nothing so far. So a line is cut at its first
bare sign, less the blanks before it, and a line without one is kept; what is left is a beginning
of the line and is not cut again. -/
theorem stripComment_follows_scan (line : String) :
    (∀ passed rest, line.toList = passed ++ rest →
      passed.foldl Quoting.step {} = (({} : Scanner).scan passed).quoting ∧
      ¬((({} : Scanner).scan passed).single = true ∧ (({} : Scanner).scan passed).double = true) ∧
      (commentStart? {} 0 passed = none → commentStart? {} 0 line.toList =
        commentStart? (passed.foldl Quoting.step {}) passed.length rest)) ∧
    (∀ before, BareSign {} line.toList before →
      (∀ other, BareSign {} line.toList other → before.length ≤ other.length) →
      commentStart? {} 0 line.toList = some before.length ∧
      stripComment line = String.ofList (Text.trimEnd before)) ∧
    ((∀ before, ¬BareSign {} line.toList before) → stripComment line = line) ∧
    (stripComment line).toList <+: line.toList ∧
    stripComment (stripComment line) = stripComment line := by
  have whole : String.ofList line.toList = line := String.ofList_toList
  refine ⟨fun passed rest eq => ⟨?_, ?_, fun uncut => ?_⟩, fun before sign first => ?_,
    fun none => ?_, ?_⟩
  · exact (Scanner.quoting_scan (s := {}) nofun passed).symm
  · exact Scanner.quotes_exclusive (s := {}) nofun passed
  · rw [eq, commentStart?_append uncut, Nat.zero_add]
  · have cut := stripComment_of_first sign first
    rwa [whole] at cut
  · have kept := stripComment_of_uncommented (uncommented_eq_self_of_no_sign none)
    rwa [whole] at kept
  · obtain ⟨left, cut, begins, code⟩ := stripComment_begins line.toList
    rw [whole] at cut
    rw [cut, String.toList_ofList]
    exact ⟨begins, stripComment_of_uncommented (uncommented_eq_self_of_begins code)⟩

/-- A sign in quotes, one after a backslash and one after a word that goes on to the comment. -/
example : stripComment "a \"#\" \x27\\\x27 \\#b \t# c # d" = "a \"#\" \x27\\\x27 \\#b" := by
  decide +kernel

end LineShell

import LineShell.Proofs.Expansion.Sites
import LineShell.Words

/-!
Which dollar signs are live. An expansion looks at the one character before the sign. The scan for
words counts the backslashes there in pairs, and takes everything in single quotes as it is. The
two differ in single quotes, and after backslashes that are all in pairs; a line with no reference
at such a place is expanded as the scan for words would have it, and no other line is.
-/
namespace LineShell

def backslashes (text : List Char) : Nat :=
  (text.reverse.takeWhile (· = '\\')).length

/-- How an expansion judges a dollar sign: by the character before it. -/
def unslashed (before : List Char) : Bool :=
  before.getLast? ≠ some '\\'

/-- How the scan for words takes a dollar sign: live unless a backslash takes it or it stands in
single quotes. -/
def dollarLive (before : List Char) : Bool :=
  let s := ({} : Scanner).scan before
  ¬s.escaped ∧ ¬s.single

/-- The places where an expansion misjudges a dollar sign. -/
inductive Misread (before : List Char) : Prop
  | quoted : (({} : Scanner).scan before).single = true → backslashes before = 0 → Misread before
  | paired : (({} : Scanner).scan before).single = false → backslashes before ≠ 0 →
      backslashes before % 2 = 0 → Misread before

@[simp] theorem backslashes_concat (text : List Char) (c : Char) :
    backslashes (text ++ [c]) = if c = '\\' then backslashes text + 1 else 0 := by
  by_cases h : c = '\\' <;> simp [backslashes, h]

theorem unslashed_iff (before : List Char) : unslashed before = true ↔ backslashes before = 0 := by
  induction before using List.reverseRecOn with
  | nil => decide
  | append_singleton text c _ => by_cases h : c = '\\' <;> simp [unslashed, h]

/-- Only a backslash outside single quotes waits, and only when none waits for it. -/
theorem escaped_step (s : Scanner) (c : Char) :
    (s.step c).escaped = true ↔ c = '\\' ∧ s.single = false ∧ s.escaped = false := by
  obtain ⟨single, double, escaped, word, words⟩ := s
  cases escaped with
  | true => simp [Scanner.step]
  | false =>
      unfold Scanner.step Scanner.push Scanner.flush
      cases single <;> grind

theorem single_step_backslash (s : Scanner) : (s.step '\\').single = s.single := by
  unfold Scanner.step Scanner.push
  grind

/-- Where a scan stands after `n` backslashes in a row: in single quotes none of them waits, and
outside they have gone in pairs. -/
structure Pairs (s : Scanner) (n : Nat) : Prop where
  quoted : s.single = true → s.escaped = false
  paired : s.single = false → (s.escaped = true ↔ n % 2 = 1)

theorem Pairs.step {s : Scanner} {n : Nat} (h : Pairs s n) (c : Char) :
    Pairs (s.step c) (if c = '\\' then n + 1 else 0) := by
  by_cases slash : c = '\\'
  · subst slash
    rw [if_pos rfl]
    refine ⟨fun quoted => ?_, fun outside => ?_⟩
    · rw [single_step_backslash] at quoted
      rw [← Bool.not_eq_true, escaped_step]
      simp [quoted]
    · rw [single_step_backslash] at outside
      have before := h.paired outside
      rw [escaped_step, ← Bool.not_eq_true s.escaped, before]
      simp only [outside, true_and]
      omega
  · have free : (s.step c).escaped = false := by
      rw [← Bool.not_eq_true, escaped_step]
      exact fun waits => slash waits.1
    rw [if_neg slash]
    exact ⟨fun _ => free, fun _ => by simp [free]⟩

theorem pairs_scan (text : List Char) : Pairs (({} : Scanner).scan text) (backslashes text) := by
  induction text using List.reverseRecOn with
  | nil => exact ⟨nofun, by decide⟩
  | append_singleton text c ih =>
      rw [Scanner.scan_append, backslashes_concat]
      exact ih.step c

theorem dollarLive_iff (before : List Char) : dollarLive before = true ↔
    (({} : Scanner).scan before).single = false ∧ backslashes before % 2 = 0 := by
  have pairs := pairs_scan before
  simp only [dollarLive, Bool.not_eq_true, Bool.decide_and, Bool.and_eq_true, decide_eq_true_eq]
  constructor
  · rintro ⟨free, outside⟩
    have notOdd : ¬backslashes before % 2 = 1 := by
      rw [← pairs.paired outside, free]
      decide
    exact ⟨outside, by omega⟩
  · rintro ⟨outside, even⟩
    refine ⟨?_, outside⟩
    rw [← Bool.not_eq_true, pairs.paired outside]
    omega

theorem unslashed_eq_dollarLive_iff (before : List Char) :
    unslashed before = dollarLive before ↔ ¬Misread before := by
  rw [Bool.eq_iff_iff, unslashed_iff, dollarLive_iff]
  constructor
  · rintro same (⟨quote, none⟩ | ⟨outside, some, even⟩)
    · rw [(same.mp none).1] at quote
      contradiction
    · exact some (same.mpr ⟨outside, even⟩)
  · intro read
    constructor
    · intro none
      refine ⟨?_, by rw [none]⟩
      by_contra quote
      exact read (.quoted (by simpa using quote) none)
    · rintro ⟨outside, even⟩
      by_contra some
      exact read (.paired outside some even)

theorem unslashed_after_dollar (before : List Char) {kept : List Char}
    (last : kept.getLast? ≠ some '\\') : unslashed (before ++ '$' :: kept) = true := by
  unfold unslashed
  rw [List.getLast?_append, List.getLast?_cons]
  cases hk : kept.getLast? with
  | none => simp
  | some c =>
      rw [hk] at last
      simpa using last

theorem expandWhere_dollarPiece (lookup : String → Option String) {before rest : List Char}
    (live : unslashed before = true) :
    ∃ later, unslashed later = true ∧
      expandWhere unslashed lookup before ('$' :: rest) =
        ((dollarPiece rest).1.value lookup).toList ++
          expandWhere unslashed lookup later (dollarPiece rest).2 := by
  cases hr : reference? rest with
  | some ref =>
      obtain ⟨after, rfl, last, hp⟩ := dollarPiece_of_some hr
      refine ⟨before ++ '$' :: ref.written, unslashed_after_dollar before last, ?_⟩
      rw [hp, expandWhere_live live hr]
  | none =>
      obtain ⟨kept, after, rfl, noSign, noSlash, hp⟩ := dollarPiece_of_none hr
      refine ⟨before ++ '$' :: kept, unslashed_after_dollar before ?_, ?_⟩
      · exact fun last => noSlash (List.mem_of_getLast? last)
      · rw [hp, expandWhere_kept (by simp [hr]), expandWhere_append noSign]
        simp [Piece.value]

/-- A piece never ends between a backslash and a dollar sign, so the sign at the start of the next
one has no backslash before it. -/
theorem expandWhere_nextPiece (lookup : String → Option String) {before rest : List Char} {c : Char}
    (boundary : unslashed before = true ∨ c ≠ '$') :
    ∃ later, (unslashed later = true ∨ (nextPiece c rest).2.head? ≠ some '$') ∧
      expandWhere unslashed lookup before (c :: rest) =
        ((nextPiece c rest).1.value lookup).toList ++
          expandWhere unslashed lookup later (nextPiece c rest).2 := by
  by_cases slashed : c = '\\' ∧ rest.head? = some '$'
  · rw [nextPiece, if_pos slashed]
    obtain ⟨rfl, sign⟩ := slashed
    obtain ⟨rest, rfl⟩ := List.head?_eq_some_iff.mp sign
    have dead : ¬unslashed (before ++ ['\\']) = true := by simp [unslashed]
    refine ⟨before ++ ['\\', '$'], .inl (by simp [unslashed]), ?_⟩
    rw [expandWhere_kept (by simp), expandWhere_kept fun live => dead live.2.1]
    simp [Piece.value]
  by_cases sign : c = '$'
  · subst sign
    obtain ⟨later, hl, eq⟩ := expandWhere_dollarPiece lookup (boundary.resolve_right (by simp))
    rw [nextPiece, if_neg slashed, if_pos rfl]
    exact ⟨later, .inl hl, eq⟩
  · rw [nextPiece, if_neg slashed, if_neg sign]
    refine ⟨before ++ [c], ?_, ?_⟩
    · rw [not_and_or] at slashed
      exact slashed.imp_left fun other => by simpa [unslashed] using other
    · rw [expandWhere_kept fun live => sign live.1]
      simp [Piece.value]

theorem expandWhere_unslashed (lookup : String → Option String) {before text : List Char}
    (boundary : unslashed before = true ∨ text.head? ≠ some '$') :
    expandWhere unslashed lookup before text =
      (pieces text).flatMap fun piece => (piece.value lookup).toList := by
  induction hn : text.length using Nat.strongRecOn generalizing before text with
  | ind n ih =>
      subst hn
      cases text with
      | nil => simp
      | cons c rest =>
          have here := boundary.imp_right fun other (sign : c = '$') => other (congrArg some sign)
          obtain ⟨later, hl, eq⟩ := expandWhere_nextPiece lookup here
          have shorter := Nat.lt_succ_of_le (length_nextPiece_le c rest)
          rw [eq, pieces_cons, List.flatMap_cons, ih _ shorter hl rfl]

theorem expandVariables_eq_expandWhere (lookup : String → Option String) (line : String) :
    expandVariables lookup line = String.ofList (expandWhere unslashed lookup [] line.toList) := by
  rw [expandWhere_unslashed lookup (.inl rfl), ← String.toList_inj, String.toList_ofList]
  simp [expandVariables, List.flatMap_map]

/-- An expansion replaces the references with no backslash before them. It is the expansion that the
scan for words would have, whatever the variables are, just when the line has no reference at a
place that is misread. -/
theorem expandVariables_live_iff (line : String) (names : NamesOnly line.toList) :
    (∀ lookup, expandVariables lookup line =
      String.ofList (expandWhere unslashed lookup [] line.toList)) ∧
    ((∀ lookup, expandVariables lookup line =
        String.ofList (expandWhere dollarLive lookup [] line.toList)) ↔
      ∀ before after, Site line.toList before after → ¬Misread before) := by
  refine ⟨fun lookup => expandVariables_eq_expandWhere lookup line, ?_⟩
  constructor
  · intro same before after site
    have alike : Alike unslashed dollarLive [] line.toList := by
      intro lookup
      rw [← String.ofList_inj, ← expandVariables_eq_expandWhere, same]
    exact (unslashed_eq_dollarLive_iff before).mp (alike.agree names site)
  · intro read lookup
    have alike : Alike unslashed dollarLive [] line.toList := by
      apply alike_of_agree
      intro before after site
      exact (unslashed_eq_dollarLive_iff before).mpr (read before after site)
    rw [expandVariables_eq_expandWhere, alike lookup]

/-- Two backslashes make a pair and leave the dollar sign live, but it is kept. -/
theorem expandVariables_paired_backslashes :
    NamesOnly "\\\\$X".toList ∧
    expandVariables (fun _ => some "v") "\\\\$X" = "\\\\$X" ∧
    String.ofList (expandWhere dollarLive (fun _ => some "v") [] "\\\\$X".toList) = "\\\\v" ∧
    ¬∀ lookup, expandVariables lookup "\\\\$X" =
      String.ofList (expandWhere dollarLive lookup [] "\\\\$X".toList) := by
  have names : NamesOnly "\\\\$X".toList := by decide
  have site : Site "\\\\$X".toList ['\\', '\\'] ['X'] := ⟨rfl, rfl⟩
  have misread : Misread ['\\', '\\'] := .paired rfl (by decide) (by decide)
  refine ⟨names, by decide +kernel, by decide +kernel, fun same => ?_⟩
  exact (expandVariables_live_iff _ names).2.mp same _ _ site misread

/-- In single quotes the dollar sign is not live, but a value is put in. -/
example :
    expandVariables (fun _ => some "v") "\x27$X\x27" = "\x27v\x27" ∧
    String.ofList (expandWhere dollarLive (fun _ => some "v") [] "\x27$X\x27".toList) =
      "\x27$X\x27" :=
  ⟨by decide +kernel, by decide +kernel⟩

end LineShell

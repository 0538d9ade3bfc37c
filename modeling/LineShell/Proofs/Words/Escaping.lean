import LineShell.Expansion.Variables
import LineShell.Proofs.Comment.Trimming
import LineShell.Proofs.Words.Writing

/-!
Words spelled with a backslash before each character. Three scanners read such a line one after
another, each with rules of its own for backslashes, and all of them must pair the same characters:
none of them may take the second of two backslashes for the one that stands before a sign.
-/
namespace LineShell
namespace Grammar

/-- A line of words with a backslash before each of their characters, and with gaps between them. -/
inductive Spelled : List String → List Char → Prop
  | none : Spelled [] []
  | some {words : List String} {text : List Char} :
      Spaced (words.map fun word => escaped word.toList) text → Spelled words text

/-- Nothing in the text stands for itself but blanks: all else comes in pairs of a backslash and
the character that it takes. -/
inductive Guarded : List Char → Prop
  | nil : Guarded []
  | blank {c rest} : c = ' ' ∨ c = '\t' → Guarded rest → Guarded (c :: rest)
  | pair (c) {rest} : Guarded rest → Guarded ('\\' :: c :: rest)

theorem Guarded.gap_append {gap text : List Char} (hg : Gap gap) (h : Guarded text) :
    Guarded (gap ++ text) := by
  induction gap with
  | nil => exact h
  | cons c rest ih =>
      exact .blank (hg c List.mem_cons_self) (ih fun d hd => hg d (List.mem_cons_of_mem _ hd))

theorem Guarded.escaped_append {text : List Char} (h : Guarded text) (word : List Char) :
    Guarded (escaped word ++ text) := by
  induction word with
  | nil => exact h
  | cons c rest ih => exact .pair c ih

theorem guarded_of_spaced {forms : List (List Char)} {text : List Char} (h : Spaced forms text)
    (all : ∀ form ∈ forms, ∃ word, form = escaped word) : Guarded text := by
  induction h with
  | one form =>
      obtain ⟨word, rfl⟩ := all form List.mem_cons_self
      simpa using Guarded.nil.escaped_append word
  | cons form gap _ _ ih =>
      obtain ⟨word, rfl⟩ := all form List.mem_cons_self
      have rest := ih fun other mem => all other (List.mem_cons_of_mem _ mem)
      rw [List.append_assoc]
      exact (rest.gap_append gap).escaped_append word

theorem Spelled.guarded {words : List String} {text : List Char} (h : Spelled words text) :
    Guarded text := by
  cases h with
  | none => exact .nil
  | some spaced =>
      refine guarded_of_spaced spaced fun form mem => ?_
      obtain ⟨word, -, rfl⟩ := List.mem_map.mp mem
      exact ⟨word.toList, rfl⟩

/-- What a guarded text begins with is no dollar sign: this keeps the backslash before it from being
taken together with a sign. -/
theorem Guarded.head_ne_dollar {text : List Char} (h : Guarded text) : text.head? ≠ some '$' := by
  cases h with
  | nil => nofun
  | blank here _ => rcases here with rfl | rfl <;> simp
  | pair c _ => simp

theorem Guarded.uncommented {text : List Char} (h : Guarded text) {s : Scanner}
    (idle : s.quoting = {}) : uncommented s text = text := by
  have coherent : s.quoting.Coherent := by
    rw [idle]
    nofun
  induction h generalizing s with
  | nil => rfl
  | @blank c rest here _ ih =>
      have passed : (s.step c).quoting = {} := by
        rw [Scanner.quoting_step coherent, idle]
        rcases here with rfl | rfl <;> rfl
      have plain : ¬(c = '#' ∧ s.quoting.bare = true) := by rcases here with rfl | rfl <;> simp
      rw [uncommented_plain plain, ih passed (passed ▸ nofun)]
  | @pair c rest _ ih =>
      have waiting : (s.step '\\').quoting = { escaped := true } := by
        rw [Scanner.quoting_step coherent, idle]
        rfl
      have taken : ((s.step '\\').step c).quoting = {} := by
        rw [Scanner.quoting_step (waiting ▸ nofun), waiting]
        rfl
      have sign : ¬(c = '#' ∧ (s.step '\\').quoting.bare = true) := fun h => by
        rw [waiting] at h
        exact absurd h.2 (by decide)
      rw [uncommented_plain (by simp), uncommented_plain sign, ih taken (taken ▸ nofun)]

theorem Guarded.pieces {text : List Char} (h : Guarded text) :
    ∃ parts : List (List Char), pieces text = parts.map Piece.copied ∧ parts.flatten = text := by
  induction h with
  | nil => exact ⟨[], pieces_nil, rfl⟩
  | @blank c rest here _ ih =>
      obtain ⟨parts, read, whole⟩ := ih
      have next : nextPiece c rest = (.copied [c], rest) := by rcases here with rfl | rfl <;> rfl
      refine ⟨[c] :: parts, ?_, by rw [List.flatten_cons, whole]; rfl⟩
      rw [pieces_cons, next, read, List.map_cons]
  | @pair c rest guarded ih =>
      obtain ⟨parts, read, whole⟩ := ih
      by_cases sign : c = '$'
      · subst sign
        refine ⟨['\\', '$'] :: parts, ?_, by rw [List.flatten_cons, whole]; rfl⟩
        rw [pieces_cons, nextPiece, if_pos ⟨rfl, rfl⟩, List.tail_cons, read, List.map_cons]
      · -- The taken character may be a backslash itself; it does not reach past the pair.
        have first : nextPiece '\\' (c :: rest) = (.copied ['\\'], c :: rest) := by
          simp [nextPiece, sign]
        have second : nextPiece c rest = (.copied [c], rest) := by
          rw [nextPiece, if_neg fun slashed => guarded.head_ne_dollar slashed.2, if_neg sign]
        refine ⟨['\\'] :: [c] :: parts, ?_, by simp [whole]⟩
        rw [pieces_cons, first, pieces_cons, second, read, List.map_cons, List.map_cons]

/-- A line with only copied pieces asks for no variable and is left as it is. -/
theorem expandVariables_of_copied {text : List Char} {parts : List (List Char)}
    (read : pieces text = parts.map Piece.copied) (whole : parts.flatten = text) :
    references (String.ofList text) = [] ∧
      ∀ lookup, expandVariables lookup (String.ofList text) = String.ofList text := by
  refine ⟨?_, fun lookup => ?_⟩
  · rw [references, String.toList_ofList, read, List.filterMap_map]
    exact List.filterMap_eq_nil_iff.mpr fun _ _ => rfl
  · rw [expandVariables, String.toList_ofList, read, ← String.toList_inj, String.toList_ofList,
      ← whole]
    simp [List.map_map, Function.comp_def, Piece.value, List.flatMap_def]

theorem tokenize_spelled {words : List String} {text : List Char} (h : Spelled words text)
    (solid : "" ∉ words) : tokenize (String.ofList text) = .ok words := by
  cases h with
  | none => rfl
  | some spaced =>
      refine tokenize_spaced spaced ?_ solid
      rw [List.forall₂_map_left_iff, List.forall₂_same]
      intro word mem
      exact word_escaped fun none => solid (String.toList_eq_nil_iff.mp none ▸ mem)

/-- A line that spells words is cut nowhere, asks for no variable, is left as it is whatever the
variables are, and is read as these words. -/
theorem spelled_words_pass (words : List String) (solid : "" ∉ words) (text : List Char)
    (spelled : Spelled words text) :
    stripComment (String.ofList text) = String.ofList text ∧
    references (String.ofList text) = [] ∧
    (∀ lookup, expandVariables lookup (String.ofList text) = String.ofList text) ∧
    tokenize (String.ofList text) = .ok words := by
  have guarded := spelled.guarded
  obtain ⟨parts, read, whole⟩ := guarded.pieces
  obtain ⟨unasked, kept⟩ := expandVariables_of_copied read whole
  refine ⟨?_, unasked, kept, tokenize_spelled spelled solid⟩
  rw [stripComment_ofList, if_pos (guarded.uncommented rfl)]

/-- A comment sign, a word that ends in a backslash before one that begins with a dollar sign, and a
reference after a backslash. -/
def awkwardWords : List String := ["#\\", "$X", "\\$\x7bX\x7d"]

def awkwardLine : String := "\\#\\\\ \\$\\X\t \\\\\\$\\\x7b\\X\\\x7d"

theorem spelled_words_pass_awkward :
    "" ∉ awkwardWords ∧ Spelled awkwardWords awkwardLine.toList ∧
    stripComment awkwardLine = awkwardLine ∧ references awkwardLine = [] ∧
    expandVariables (fun _ => some "v") awkwardLine = awkwardLine ∧
    tokenize awkwardLine = .ok awkwardWords := by
  have solid : "" ∉ awkwardWords := by decide
  have space : Gap [' '] := by simp [Gap]
  have wide : Gap ['\t', ' '] := by simp [Gap]
  have spelled : Spelled awkwardWords awkwardLine.toList :=
    .some (.cons _ space (by decide) (.cons _ wide (by decide) (.one _)))
  obtain ⟨uncut, unasked, kept, read⟩ := spelled_words_pass _ solid _ spelled
  exact ⟨solid, spelled, uncut, unasked, kept _, read⟩

end Grammar
end LineShell

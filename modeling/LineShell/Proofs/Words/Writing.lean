import LineShell.Proofs.Words.Reading
import Mathlib.Data.List.Forall2
import Mathlib.Data.List.Induction

/-!
Words written down to be read again. A text that has no special character is a word as it stands,
and any text is one once a backslash stands before each of its characters; such words with gaps
between them are read back as they were.
-/
namespace LineShell
namespace Grammar

def escaped (text : List Char) : List Char :=
  text.flatMap fun c => ['\\', c]

theorem word_escaped {text : List Char} (h : text ≠ []) : Word (escaped text) text := by
  induction text using List.reverseRecOn with
  | nil => contradiction
  | append_singleton front c ih =>
      have last : escaped (front ++ [c]) = escaped front ++ ['\\', c] := by simp [escaped]
      rw [last]
      cases front with
      | nil => exact .one (.escaped c)
      | cons d rest => exact .snoc (ih (List.cons_ne_nil d rest)) (.escaped c)

theorem word_bare {text : List Char} (h : text ≠ []) (bare : ∀ c ∈ text, Bare c) :
    Word text text := by
  induction text using List.reverseRecOn with
  | nil => contradiction
  | append_singleton front c ih =>
      have last : Segment [c] [c] := .bare (bare c (by simp))
      cases front with
      | nil => exact .one last
      | cons d rest =>
          refine .snoc (ih (List.cons_ne_nil d rest) fun e he => bare e ?_) last
          exact List.mem_append_left _ he

inductive Spaced : List (List Char) → List Char → Prop
  | one (form) : Spaced [form] form
  | cons (form) {gap forms text} :
      Gap gap → gap ≠ [] → Spaced forms text → Spaced (form :: forms) (form ++ gap ++ text)

theorem exists_spaced {forms : List (List Char)} (h : forms ≠ []) :
    ∃ text, Spaced forms text := by
  induction forms with
  | nil => contradiction
  | cons form rest ih =>
      cases rest with
      | nil => exact ⟨form, .one form⟩
      | cons next others =>
          obtain ⟨text, spaced⟩ := ih (List.cons_ne_nil next others)
          have space : Gap [' '] := by simp [Gap]
          exact ⟨_, .cons form space (List.cons_ne_nil _ _) spaced⟩

theorem Words.cons {form value gap text : List Char} {values : List (List Char)}
    (word : Word form value) (hg : Gap gap) (apart : gap ≠ []) (words : Words text values) :
    Words (form ++ gap ++ text) (value :: values) := by
  induction words with
  | one last => exact .snoc (.one word) hg apart last
  | @snoc text values between next value _ hb apart' last ih =>
      simpa using Words.snoc ih hb apart' last

theorem words_spaced {forms values : List (List Char)} {text : List Char}
    (spaced : Spaced forms text) (words : List.Forall₂ Word forms values) : Words text values := by
  induction spaced generalizing values with
  | one form =>
      obtain ⟨value, _, word, none, rfl⟩ := List.forall₂_cons_left_iff.mp words
      rw [List.forall₂_nil_left_iff.mp none]
      exact .one word
  | cons form gap apart _ ih =>
      obtain ⟨value, rest, word, others, rfl⟩ := List.forall₂_cons_left_iff.mp words
      exact .cons word gap apart (ih others)

theorem tokenize_spaced {forms : List (List Char)} {tokens : List String} {text : List Char}
    (spaced : Spaced forms text) (words : List.Forall₂ (fun form token => Word form token.toList)
      forms tokens) (solid : "" ∉ tokens) : tokenize (String.ofList text) = .ok tokens := by
  have line : Line text (tokens.map String.toList) := by
    have all := words_spaced spaced (List.forall₂_map_right_iff.mpr words)
    have none : Gap [] := nofun
    simpa using Line.words none all none
  have kept : shown (tokens.map String.toList) = tokens := by
    have solid' : ∀ token ∈ tokens, token.toList ≠ [] := fun token mem none => by
      rw [String.toList_eq_nil_iff] at none
      exact solid (none ▸ mem)
    rw [shown, List.filter_eq_self.mpr]
    · simp
    · simpa using solid'
  rw [tokenize, String.toList_ofList, finish_line line, kept]

end Grammar
end LineShell

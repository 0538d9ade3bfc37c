import LineShell.History
import LineShell.Proofs.Comment.Cut
import LineShell.Proofs.Comment.Trimming
import Mathlib.Data.List.Destutter
import Mathlib.Data.List.DropRight

/-!
The entries of a history. They are the last of all the lines entered, of which one that repeats the
line before it does not count. A line that the shell enters is trimmed, so none of the other rules
keeps it out.
-/
namespace LineShell

section
variable {α : Type} [DecidableEq α]

theorem destutter'_concat (a : α) (l : List α) (b : α) :
    (l ++ [b]).destutter' (· ≠ ·) a =
      l.destutter' (· ≠ ·) a ++ if (l.destutter' (· ≠ ·) a).getLast? = some b then [] else [b] := by
  induction l generalizing a with
  | nil =>
      rw [List.nil_append, List.destutter'_singleton]
      by_cases same : a = b <;> simp [same]
  | cons c rest ih =>
      rw [List.cons_append]
      by_cases same : a = c
      · rw [List.destutter'_cons_neg _ (not_not.mpr same), ih,
          List.destutter'_cons_neg _ (not_not.mpr same)]
      · rw [List.destutter'_cons_pos _ same, ih, List.destutter'_cons_pos _ same, List.cons_append,
          List.getLast?_cons_of_ne_nil (List.destutter'_ne_nil _ _)]

theorem destutter_concat (l : List α) (b : α) :
    (l ++ [b]).destutter (· ≠ ·) =
      l.destutter (· ≠ ·) ++ if (l.destutter (· ≠ ·)).getLast? = some b then [] else [b] := by
  cases l with
  | nil => simp
  | cons a rest => exact destutter'_concat a rest b

end

structure Trimmed (entry : String) : Prop where
  ne_nil : entry.toList ≠ []
  first : ∀ c ∈ entry.toList.head?, Text.isBlank c = false
  last : ∀ c ∈ entry.toList.getLast?, Text.isBlank c = false

theorem isBlank_head?_trimStart {text : List Char} {c : Char}
    (h : c ∈ (Text.trimStart text).head?) : Text.isBlank c = false := by
  have first := List.head?_dropWhile_not Text.isBlank text
  rw [Text.trimStart, Option.mem_def] at h
  rw [h] at first
  simpa using first

theorem isBlank_getLast?_trimEnd {text : List Char} {c : Char}
    (h : c ∈ (Text.trimEnd text).getLast?) : Text.isBlank c = false := by
  rw [Text.trimEnd, List.getLast?_reverse] at h
  exact isBlank_head?_trimStart h

/-- What the shell goes on with of a line is nothing, or trimmed. -/
theorem trimmed_effective {line : String} (h : effective line ≠ "") :
    Trimmed (effective line) := by
  rw [effective_eq] at h ⊢
  have begins := (trimEnd_begins _).trans
    (uncommented_begins {} (Text.trimStart line.toList))
  generalize left : Text.trimEnd (uncommented {} (Text.trimStart line.toList)) = text at *
  have ne_nil : text ≠ [] := fun none => h (none ▸ rfl)
  refine ⟨by simpa using ne_nil, fun c mem => ?_, fun c mem => ?_⟩
  · rw [String.toList_ofList] at mem
    obtain ⟨rest, whole⟩ := begins
    have front : c ∈ (Text.trimStart line.toList).head? := by
      rwa [← whole, List.head?_append_of_ne_nil _ ne_nil]
    exact isBlank_head?_trimStart front
  · rw [String.toList_ofList, ← left] at mem
    exact isBlank_getLast?_trimEnd mem

theorem getLast?_rtake {α : Type} {n : Nat} (pos : n ≠ 0) (l : List α) :
    (l.rtake n).getLast? = l.getLast? := by
  rw [List.rtake_eq_reverse_take_reverse, List.getLast?_reverse, List.head?_take, if_neg pos,
    List.head?_reverse]

theorem rtake_concat_rtake {α : Type} {n : Nat} (pos : n ≠ 0) (l : List α) (a : α) :
    (l.rtake n ++ [a]).rtake n = (l ++ [a]).rtake n := by
  obtain ⟨m, rfl⟩ := Nat.exists_eq_succ_of_ne_zero pos
  rw [List.rtake_concat_succ, List.rtake_concat_succ]
  simp only [List.rtake_eq_reverse_take_reverse, List.reverse_reverse, List.take_take]
  rw [Nat.min_eq_left (Nat.le_succ m)]

namespace History

/-- The last of the lines entered, without repetitions. -/
def recent (capacity : Nat) (entered : List String) : List String :=
  (entered.destutter (· ≠ ·)).rtake capacity

theorem takes_trimmed (history : History) {entry : String} (trimmed : Trimmed entry) :
    history.takes entry =
      (decide (history.capacity ≠ 0) && decide (history.entries.getLast? ≠ some entry)) := by
  obtain ⟨c, rest, chars⟩ := List.exists_cons_of_ne_nil trimmed.ne_nil
  have solid : Text.isBlank c = false := trimmed.first c (by rw [chars]; rfl)
  simp [takes, chars, solid]

@[simp] theorem add_capacity (history : History) (entry : String) :
    (history.add entry).capacity = history.capacity := by
  unfold add
  split <;> rfl

@[simp] theorem foldl_add_capacity (lines : List String) (history : History) :
    (lines.foldl add history).capacity = history.capacity := by
  induction lines generalizing history with
  | nil => rfl
  | cons line rest ih => rw [List.foldl_cons, ih, add_capacity]

/-- A history that changes has something to save from then on. -/
theorem add_eq_or_saved (history : History) (entry : String) :
    history.add entry = history ∨
      (history.add entry).saved? = some (history.add entry).fileText := by
  unfold add
  split
  · next taken =>
      refine .inr (if_pos ⟨rfl, List.ne_nil_of_length_pos ?_⟩)
      have room : history.capacity ≠ 0 := by
        simp only [takes, Bool.and_eq_true, decide_eq_true_eq] at taken
        exact taken.1.1
      rw [List.length_drop, List.length_append, List.length_singleton]
      omega
  · exact .inl rfl

theorem foldl_add_eq_or_saved (lines : List String) (history : History) :
    lines.foldl add history = history ∨
      (lines.foldl add history).saved? = some (lines.foldl add history).fileText := by
  induction lines generalizing history with
  | nil => exact .inl rfl
  | cons line rest ih =>
      rw [List.foldl_cons]
      rcases ih (history.add line) with same | saved
      · rw [same]
        exact add_eq_or_saved history line
      · exact .inr saved

/-- Entering a line, whether it repeats the last one or not. -/
theorem add_recent {history : History} {entered : List String}
    (h : history.entries = recent history.capacity entered) {entry : String}
    (trimmed : Trimmed entry) :
    (history.add entry).entries = recent history.capacity (entered ++ [entry]) := by
  rw [recent] at h
  rw [recent, destutter_concat]
  by_cases none : history.capacity = 0
  · rw [add, takes_trimmed history trimmed, none]
    simpa [none] using h
  have last := congrArg List.getLast? h
  rw [getLast?_rtake none] at last
  rw [add, takes_trimmed history trimmed, last]
  by_cases repeated : (entered.destutter (· ≠ ·)).getLast? = some entry
  · simpa [repeated] using h
  · rw [if_pos (by simp [none, repeated]), if_neg repeated, ← rtake_concat_rtake none, ← h]
    rfl

theorem entries_foldl_add {history : History} {entered : List String}
    (h : history.entries = recent history.capacity entered) {lines : List String}
    (trimmed : ∀ line ∈ lines, Trimmed line) :
    (lines.foldl add history).entries = recent history.capacity (entered ++ lines) := by
  induction lines generalizing history entered with
  | nil => simpa using h
  | cons line rest ih =>
      obtain ⟨first, others⟩ := List.forall_mem_cons.mp trimmed
      have next := add_recent h first
      rw [← add_capacity history line] at next
      have last := ih next others
      rwa [add_capacity, List.append_assoc] at last

structure Tidy (history : History) : Prop where
  few : history.entries.length ≤ history.capacity
  apart : history.entries.IsChain (· ≠ ·)
  trimmed : ∀ entry ∈ history.entries, Trimmed entry

theorem tidy_recent {history : History} {entered : List String}
    (h : history.entries = recent history.capacity entered)
    (trimmed : ∀ line ∈ entered, Trimmed line) : history.Tidy := by
  rw [recent] at h
  refine ⟨?_, ?_, fun entry mem => trimmed entry ?_⟩
  · rw [h, List.rtake, List.length_drop]
    omega
  · rw [h]
    exact (List.isChain_destutter _ _).suffix (List.drop_suffix ..)
  · rw [h] at mem
    exact (List.destutter_sublist _ _).subset (List.mem_of_mem_drop mem)

/-- Entering tidy entries again gives them back. -/
theorem Tidy.recent_eq {history : History} (tidy : history.Tidy) :
    recent history.capacity history.entries = history.entries := by
  rw [recent, List.destutter_of_isChain _ _ tidy.apart, List.rtake,
    Nat.sub_eq_zero_of_le tidy.few, List.drop_zero]

end History
end LineShell

import LineShell.Environment
import LineShell.Expansion.Variables

/-!
What a variable is after others were set and removed. A look-up reads the one variable that owns the
name, so a change of any other leaves its answer alone.
-/
namespace LineShell

theorem isNameChar_of_isIdentifier {name : String} (h : isIdentifier name = true) :
    name.toList ≠ [] ∧ ∀ c ∈ name.toList, isNameChar c = true := by
  unfold isIdentifier at h
  cases chars : name.toList with
  | nil =>
      rw [chars] at h
      contradiction
  | cons c rest =>
      rw [chars] at h
      simp only [Bool.and_eq_true, Bool.or_eq_true, List.all_eq_true, decide_eq_true_eq] at h
      refine ⟨List.cons_ne_nil c rest, List.forall_mem_cons.mpr ⟨?_, fun d mem => ?_⟩⟩
      · simp only [isNameChar, Char.isAlphanum, Bool.or_eq_true, decide_eq_true_eq]
        exact h.1.imp_left .inl
      · simpa [isNameChar] using h.2 d mem

theorem uncut_of_isIdentifier {name : String} (h : isIdentifier name = true) :
    Text.cut? '=' name.toList = none := by
  rw [Text.cut?_eq_none_iff]
  exact fun mem => absurd ((isNameChar_of_isIdentifier h).2 _ mem) (by decide)

namespace Environment

def owner (name : String) : String :=
  match Text.cut? '=' name.toList with
  | some (front, _) => String.ofList front
  | none => name

theorem get?_of_isIdentifier {name : String} (h : isIdentifier name = true) (env : Environment) :
    env.get? name = env.find? name := by
  have named : name ≠ "" := by
    rintro rfl
    exact (isNameChar_of_isIdentifier h).1 rfl
  simp only [get?, uncut_of_isIdentifier h, if_neg named]

theorem get?_congr {env other : Environment} {name : String}
    (same : env.find? (owner name) = other.find? (owner name)) :
    env.get? name = other.get? name := by
  unfold get?
  unfold owner at same
  split
  · next uncut =>
      rw [uncut] at same
      rw [same]
  · next front start cut =>
      rw [cut] at same
      rw [same]

theorem find?_map_replace (entries : List (String × String)) (name value other : String) :
    ((entries.map fun entry => if entry.1 = name then (name, value) else entry).find?
        (·.1 = other)).map Prod.snd =
      if other = name then if entries.any (·.1 = name) then some value else none
      else (entries.find? (·.1 = other)).map Prod.snd := by
  induction entries with
  | nil => simp
  | cons entry rest ih =>
      rw [List.map_cons, List.find?_cons, List.find?_cons, List.any_cons]
      by_cases here : entry.1 = name
      · by_cases same : other = name
        · simp [here, same]
        · simpa [here, same, Ne.symm same] using ih
      · rw [if_neg here, decide_eq_false here, Bool.false_or]
        split
        · next found =>
            have differ : other ≠ name := fun same => here ((of_decide_eq_true found).trans same)
            simp [differ]
        · exact ih

theorem find?_set (env : Environment) (name value other : String) :
    (env.set name value).find? other = if other = name then some value else env.find? other := by
  unfold set find?
  split
  · next present => rw [find?_map_replace, if_pos present]
  · next absent =>
      have none : env.entries.find? (·.1 = name) = none := by
        rw [List.find?_eq_none]
        exact fun entry mem named => absent (List.any_eq_true.mpr ⟨entry, mem, named⟩)
      rw [List.find?_append]
      by_cases same : other = name
      · simp [same, none]
      · simp [Ne.symm same, same]

theorem find?_unset (env : Environment) (name other : String) :
    (env.unset name).find? other = if other = name then none else env.find? other := by
  have both (entry : String × String) : entry.1 ≠ name ∧ entry.1 = other ↔
      other ≠ name ∧ entry.1 = other :=
    and_congr_left fun same => same ▸ Iff.rfl
  simp only [unset, find?, List.find?_filter, decide_eq_true_eq, both]
  by_cases same : other = name <;> simp [same]

end Environment

structure Change where
  name : String
  value : Option String
  deriving DecidableEq, Repr

namespace Environment

def change (env : Environment) (change : Change) : Environment :=
  match change.value with
  | some value => env.set change.name value
  | none => env.unset change.name

theorem find?_change (env : Environment) (change : Change) (name : String) :
    (env.change change).find? name =
      if name = change.name then change.value else env.find? name := by
  unfold Environment.change
  split
  · next value given => rw [find?_set, given]
  · next none => rw [find?_unset, none]

theorem find?_changes_of_ne {changes : List Change} {name : String}
    (others : ∀ change ∈ changes, change.name ≠ name) (env : Environment) :
    (changes.foldl change env).find? name = env.find? name := by
  induction changes generalizing env with
  | nil => rfl
  | cons first rest ih =>
      obtain ⟨differs, later⟩ := List.forall_mem_cons.mp others
      rw [List.foldl_cons, ih later, find?_change, if_neg (Ne.symm differs)]

/-- The last change of a variable counts. -/
theorem find?_changes_last (front : List Change) {last : Change} {back : List Change}
    (others : ∀ later ∈ back, later.name ≠ last.name) (env : Environment) :
    ((front ++ last :: back).foldl change env).find? last.name = last.value := by
  rw [List.foldl_append, List.foldl_cons, find?_changes_of_ne others, find?_change, if_pos rfl]

end Environment
end LineShell

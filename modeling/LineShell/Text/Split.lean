/-!
Text cut at a mark: at its first place, or at all of them.
-/
namespace LineShell.Text

/-- What stands before and after the first mark, if there is one. -/
def cut? (mark : Char) (text : List Char) : Option (List Char × List Char) :=
  match text.dropWhile (· ≠ mark) with
  | [] => none
  | _ :: after => some (text.takeWhile (· ≠ mark), after)

/-- A stretch of text with `c` put in front of the first stretch, or begun before it by a mark. -/
def addToFields (mark : Char) (c : Char) (stretches : List (List Char)) : List (List Char) :=
  if c = mark then [] :: stretches
  else
    match stretches with
    | [] => [[c]]
    | first :: others => (c :: first) :: others

/-- The stretches between the marks, one more than there are marks. -/
def fields (mark : Char) (text : List Char) : List (List Char) :=
  text.foldr (addToFields mark) [[]]

@[simp] theorem fields_nil (mark : Char) : fields mark [] = [[]] := rfl

theorem fields_cons (mark c : Char) (text : List Char) :
    fields mark (c :: text) = addToFields mark c (fields mark text) := rfl

theorem fields_ne_nil (mark : Char) (text : List Char) : fields mark text ≠ [] := by
  cases text with
  | nil => exact List.cons_ne_nil _ _
  | cons c rest =>
      rw [fields_cons]
      unfold addToFields
      split
      · exact List.cons_ne_nil _ _
      · split <;> exact List.cons_ne_nil _ _

/-- The stretches of two texts with a mark between them. -/
theorem fields_append (mark : Char) (text rest : List Char) :
    fields mark (text ++ mark :: rest) = fields mark text ++ fields mark rest := by
  induction text with
  | nil => exact if_pos rfl
  | cons c more ih =>
      have begun := fields_ne_nil mark more
      rw [List.cons_append, fields_cons, fields_cons, ih]
      generalize fields mark more = stretches at begun ⊢
      unfold addToFields
      split
      · rfl
      · cases stretches with
        | nil => contradiction
        | cons first others => rfl

theorem fields_of_not_mem {mark : Char} {text : List Char} (h : mark ∉ text) :
    fields mark text = [text] := by
  induction text with
  | nil => rfl
  | cons c rest ih =>
      rw [List.mem_cons, not_or] at h
      rw [fields_cons, ih h.2]
      exact if_neg (Ne.symm h.1)

theorem cut?_cons (mark c : Char) (rest : List Char) :
    cut? mark (c :: rest) =
      if c = mark then some ([], rest)
      else (cut? mark rest).map fun parts => (c :: parts.1, parts.2) := by
  by_cases same : c = mark
  · simp [cut?, same]
  · simp only [cut?, List.dropWhile_cons, List.takeWhile_cons, same, ne_eq, not_false_eq_true,
      decide_true, if_true, if_false]
    cases rest.dropWhile (· ≠ mark) <;> rfl

theorem cut?_append {mark : Char} {before : List Char} (h : mark ∉ before)
    (after : List Char) : cut? mark (before ++ mark :: after) = some (before, after) := by
  induction before with
  | nil => simp [cut?_cons]
  | cons c rest ih =>
      rw [List.mem_cons, not_or] at h
      rw [List.cons_append, cut?_cons, if_neg (Ne.symm h.1), ih h.2]
      rfl

theorem cut?_eq_some {mark : Char} {text before after : List Char}
    (h : cut? mark text = some (before, after)) :
    text = before ++ mark :: after ∧ mark ∉ before := by
  have whole := List.takeWhile_append_dropWhile (p := fun c => decide (c ≠ mark)) (l := text)
  have front := List.all_takeWhile (p := fun c => decide (c ≠ mark)) (l := text)
  have first := List.head?_dropWhile_not (fun c => decide (c ≠ mark)) text
  unfold cut? at h
  split at h
  · contradiction
  · next d others hd =>
      simp only [Option.some.injEq, Prod.mk.injEq] at h
      obtain ⟨rfl, rfl⟩ := h
      rw [hd] at whole first
      have hm : d = mark := by simpa using first
      subst hm
      refine ⟨whole.symm, fun hmem => ?_⟩
      have := List.all_eq_true.mp front _ hmem
      simp at this

theorem cut?_eq_none_iff {mark : Char} {text : List Char} :
    cut? mark text = none ↔ mark ∉ text := by
  constructor
  · intro uncut mem
    obtain ⟨before, after, rfl, first⟩ := List.eq_append_cons_of_mem mem
    rw [cut?_append first] at uncut
    contradiction
  · intro absent
    cases found : cut? mark text with
    | none => rfl
    | some parts =>
        rw [(cut?_eq_some found).1] at absent
        simp at absent

theorem length_after_lt {mark : Char} {text before after : List Char}
    (h : cut? mark text = some (before, after)) : after.length < text.length := by
  rw [(cut?_eq_some h).1]
  simp only [List.length_append, List.length_cons]
  omega

end LineShell.Text

import LineShell.Proofs.Path.Tilde

/-!
The directory that the prompt shows. It is abbreviated just if the components of the home directory
begin those of the directory, and a command that is given what is shown finds the directory again;
so two directories are never shown alike.
-/
namespace LineShell.Path

/-- An absolute path as the system gives it: names with single slashes before them. -/
def Canonical (path : String) : Prop :=
  ∃ names : List String, (∀ name ∈ names, IsName name) ∧ path = "/" ++ "/".intercalate names

theorem components_canonical {names : List String} (proper : ∀ name ∈ names, IsName name) :
    components ("/" ++ "/".intercalate names) = .root :: names.map Component.name := by
  rw [components_of_absolute (isAbsolute_iff.mpr ⟨_, rfl⟩), parts_slash_append,
    parts_intercalate proper, ofParts_of_isName proper]

theorem Canonical.ext {path other : String} (h : Canonical path) (ho : Canonical other)
    (same : components path = components other) : path = other := by
  obtain ⟨names, proper, rfl⟩ := h
  obtain ⟨others, also, rfl⟩ := ho
  rw [components_canonical proper, components_canonical also] at same
  have names_eq : names = others :=
    List.map_injective_iff.mpr (fun _ _ => Component.name.inj) (List.tail_eq_of_cons_eq same)
  rw [names_eq]

theorem Canonical.isAbsolute {path : String} (h : Canonical path) : isAbsolute path = true := by
  obtain ⟨names, -, rfl⟩ := h
  exact isAbsolute_iff.mpr ⟨_, rfl⟩

theorem display_outside {directory home : String}
    (outside : ¬components home <+: components directory) :
    display directory (some home) = directory := by
  have none : below? directory home = none :=
    if_neg fun inside => outside (List.isPrefixOf_iff_prefix.mp inside)
  simp [display, none]

theorem join_tilde {rest : String} (h : isAbsolute rest = false) :
    join "~" rest = "~/" ++ rest := by
  rw [join, if_neg (by simp [h]), if_neg (by decide)]
  rfl

/-- A directory inside the home directory is shown with the names by which it goes on. -/
theorem display_inside {names : List String} (proper : ∀ name ∈ names, IsName name)
    {directory home : String}
    (inside : components directory = components home ++ names.map Component.name) :
    display directory (some home) =
      if names = [] then "~" else "~/" ++ "/".intercalate names := by
  have found : below? directory home = some (names.map Component.name) := by
    unfold below?
    rw [inside, if_pos (List.isPrefixOf_iff_prefix.mpr (List.prefix_append _ _)), List.drop_left]
  cases names with
  | nil => simp [display, found]
  | cons name rest =>
      have texts : ((name :: rest).map Component.name).map Component.text = name :: rest := by
        rw [List.map_map]
        exact List.map_id (name :: rest)
      rw [if_neg (List.cons_ne_nil name rest), ← join_tilde (isAbsolute_intercalate proper),
        display, Option.bind_some, found]
      show join "~" ("/".intercalate (((name :: rest).map Component.name).map Component.text)) = _
      rw [texts]

/-- The names by which a directory goes on from the home directory. -/
theorem Canonical.inside {directory home : String} (h : Canonical directory)
    (absolute : Path.isAbsolute home = true) (front : components home <+: components directory) :
    ∃ names : List String, (∀ name ∈ names, IsName name) ∧
      components directory = components home ++ names.map Component.name := by
  obtain ⟨names, proper, rfl⟩ := h
  rw [components_canonical proper, components_of_absolute absolute] at front ⊢
  obtain ⟨later, whole⟩ := front
  obtain ⟨firsts, lasts, rfl, above, below⟩ :=
    List.map_eq_append_iff.mp (List.tail_eq_of_cons_eq whole).symm
  refine ⟨lasts, fun name mem => proper name (List.mem_append_right firsts mem), ?_⟩
  rw [List.map_append, above, List.cons_append]

/-- What is shown leads back to the directory. -/
theorem components_expandTildeWord_display {directory home : String} (h : Canonical directory)
    (absolute : Path.isAbsolute home = true) :
    components (expandTildeWord home (display directory (some home))) = components directory := by
  by_cases front : components home <+: components directory
  · obtain ⟨names, proper, inside⟩ := h.inside absolute front
    rw [display_inside proper inside, inside]
    split
    · next none =>
        subst none
        exact (List.append_nil _).symm
    · rw [expandTildeWord_below, components_join absolute (isAbsolute_intercalate proper),
        parts_intercalate proper, ofParts_of_isName proper]
  · rw [display_outside front, expandTildeWord_of_isAbsolute home h.isAbsolute]

theorem head?_display_iff {directory home : String} (h : Canonical directory)
    (absolute : Path.isAbsolute home = true) :
    (display directory (some home)).toList.head? = some '~' ↔
      components home <+: components directory := by
  by_cases front : components home <+: components directory
  · obtain ⟨names, proper, inside⟩ := h.inside absolute front
    rw [display_inside proper inside]
    refine iff_of_true ?_ front
    split
    · rfl
    · simp
  · obtain ⟨rest, whole⟩ := isAbsolute_iff.mp h.isAbsolute
    rw [display_outside front]
    refine iff_of_false ?_ front
    rw [whole]
    simp

/-- The prompt and the words of a command agree on directories. What is shown begins with a tilde
just if the components of the home directory begin those of the directory, however the home
directory is written, and any word of a command that is what is shown becomes a path to the
directory. So two directories are never shown alike; one outside the home directory is shown as it
is, also if only the text of its name begins like the last name of the home directory. -/
theorem display_reads_back (home directory : String) (absolute : Path.isAbsolute home = true)
    (canonical : Canonical directory) :
    let shown := display directory (some home)
    (shown.toList.head? = some '~' ↔ components home <+: components directory) ∧
    (∀ (command : Command) (i : Nat), command.args[i]? = some shown →
      ((command.expandTilde (some home)).args[i]?).map components =
        some (components directory)) ∧
    (∀ other, Canonical other → display other (some home) = shown → other = directory) ∧
    (¬components home <+: components directory → shown = directory) ∧
    ∀ front name more after, more ≠ "" → components home = front ++ [.name name] →
      components directory = front ++ .name (name ++ more) :: after → shown = directory := by
  refine ⟨head?_display_iff canonical absolute, fun command i word => ?_, ?_, display_outside, ?_⟩
  · have expanded : (command.expandTilde (some home)).args[i]? =
        (command.args[i]?).map (expandTildeWord home) := List.getElem?_map
    rw [expanded, word, Option.map_some, Option.map_some,
      components_expandTildeWord_display canonical absolute]
  · intro other also same
    refine also.ext canonical ?_
    rw [← components_expandTildeWord_display also absolute, same,
      components_expandTildeWord_display canonical absolute]
  · intro front name more after longer house place
    refine display_outside fun inside => ?_
    rw [house, place, List.prefix_append_right_inj, List.cons_prefix_cons] at inside
    have lengths := congrArg String.length (Component.name.inj inside.1)
    rw [String.length_append] at lengths
    exact longer (String.length_eq_zero_iff.mp (by omega))

/-- A home directory that is written with slashes too many, a directory in it that is named like it
is abbreviated, and one beside it. -/
theorem display_reads_back_tilde :
    isAbsolute "/home//robert/" = true ∧ Canonical "/home/robert/~" ∧ Canonical "/home/roberta" ∧
    components "/home//robert/" <+: components "/home/robert/~" ∧
    ((({ args := ["cd", "~/~"] } : Command).expandTilde (some "/home//robert/")).args[1]?).map
      components = some (components "/home/robert/~") ∧
    display "/home/roberta" (some "/home//robert/") = "/home/roberta" := by
  have absolute : isAbsolute "/home//robert/" = true := by decide
  have names (name : String) (h : name ∈ ["home", "robert", "~", "roberta"]) : IsName name := by
    simp only [List.mem_cons, List.not_mem_nil, or_false] at h
    rcases h with rfl | rfl | rfl | rfl <;> exact ⟨by decide, by decide, by decide⟩
  have nested : Canonical "/home/robert/~" := by
    refine ⟨["home", "robert", "~"], ?_, by decide +kernel⟩
    simpa using ⟨names _ (by simp), names _ (by simp), names _ (by simp)⟩
  have beside : Canonical "/home/roberta" := by
    refine ⟨["home", "roberta"], ?_, by decide +kernel⟩
    simpa using ⟨names _ (by simp), names _ (by simp)⟩
  obtain ⟨begins, found, -⟩ := display_reads_back "/home//robert/" "/home/robert/~" absolute nested
  obtain ⟨-, -, -, -, sibling⟩ :=
    display_reads_back "/home//robert/" "/home/roberta" absolute beside
  refine ⟨absolute, nested, beside, begins.mp (by decide +kernel),
    found _ 1 (by decide +kernel), ?_⟩
  exact sibling [.root, .name "home"] "robert" "a" [] (by decide) (by decide +kernel)
    (by decide +kernel)

end LineShell.Path

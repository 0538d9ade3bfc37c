import LineShell.Path

/-!
The components of paths that are put together. What is joined to a path comes after its components,
however the path ends; only an absolute path joined to it takes its place.
-/
namespace LineShell.Path

/-- What parts come to: single dots are nothing. -/
def ofParts (parts : List String) : List Component :=
  (parts.filter (· ≠ ".")).map ofPart

theorem text_ofPart (part : String) : (ofPart part).text = part := by
  unfold ofPart
  split
  · next parent => exact parent.symm
  · rfl

theorem text_ofParts (parts : List String) :
    (ofParts parts).map Component.text = parts.filter (· ≠ ".") := by
  simp [ofParts, text_ofPart, Function.comp_def]

theorem ofParts_append (parts others : List String) :
    ofParts (parts ++ others) = ofParts parts ++ ofParts others := by
  simp [ofParts]

theorem components_of_absolute {path : String} (h : isAbsolute path = true) :
    components path = .root :: ofParts (parts path) :=
  if_pos h

theorem isAbsolute_iff {path : String} : isAbsolute path = true ↔ ∃ rest, path = "/" ++ rest := by
  rw [isAbsolute, decide_eq_true_eq, List.head?_eq_some_iff]
  constructor
  · rintro ⟨rest, chars⟩
    refine ⟨String.ofList rest, ?_⟩
    rw [← String.toList_inj, chars]
    simp
  · rintro ⟨rest, rfl⟩
    exact ⟨rest.toList, by simp⟩

theorem isAbsolute_append {path : String} (h : path ≠ "") (rest : String) :
    isAbsolute (path ++ rest) = isAbsolute path := by
  have solid : path.toList ≠ [] := fun none => h (String.toList_eq_nil_iff.mp none)
  obtain ⟨c, more, chars⟩ := List.exists_cons_of_ne_nil solid
  simp only [isAbsolute, String.toList_append, chars, List.cons_append, List.head?_cons]

@[simp] theorem parts_empty : parts "" = [] := rfl

theorem parts_append (path rest : String) :
    parts (path ++ "/" ++ rest) = parts path ++ parts rest := by
  have chars : (path ++ "/" ++ rest).toList = path.toList ++ '/' :: rest.toList := by simp
  simp only [parts, chars, Text.fields_append, List.filter_append, List.map_append]

theorem parts_slash_append (rest : String) : parts ("/" ++ rest) = parts rest :=
  parts_append "" rest

structure IsName (name : String) : Prop where
  solid : name ≠ ""
  whole : '/' ∉ name.toList
  named : name ≠ "." ∧ name ≠ ".."

theorem parts_of_isName {name : String} (h : IsName name) : parts name = [name] := by
  have solid : name.toList ≠ [] := fun none => h.solid (String.toList_eq_nil_iff.mp none)
  rw [parts, Text.fields_of_not_mem h.whole, List.filter_cons_of_pos (by simpa using solid)]
  simp

theorem parts_intercalate {names : List String} (proper : ∀ name ∈ names, IsName name) :
    parts ("/".intercalate names) = names := by
  induction names with
  | nil => rfl
  | cons name rest ih =>
      obtain ⟨first, others⟩ := List.forall_mem_cons.mp proper
      cases rest with
      | nil => exact parts_of_isName first
      | cons next more =>
          rw [String.intercalate_cons_cons, parts_append, parts_of_isName first, ih others]
          rfl

theorem ofParts_of_isName {names : List String} (proper : ∀ name ∈ names, IsName name) :
    ofParts names = names.map Component.name := by
  have undotted : names.filter (· ≠ ".") = names :=
    List.filter_eq_self.mpr fun name mem => by simpa using (proper name mem).named.1
  rw [ofParts, undotted]
  exact List.map_congr_left fun name mem => if_neg (proper name mem).named.2

theorem isAbsolute_of_isName {name : String} (h : IsName name) : isAbsolute name = false := by
  rw [Bool.eq_false_iff]
  intro absolute
  obtain ⟨rest, rfl⟩ := isAbsolute_iff.mp absolute
  exact h.whole (by simp)

theorem isAbsolute_intercalate {names : List String} (proper : ∀ name ∈ names, IsName name) :
    isAbsolute ("/".intercalate names) = false := by
  cases names with
  | nil => rfl
  | cons name more =>
      obtain ⟨first, -⟩ := List.forall_mem_cons.mp proper
      cases more with
      | nil => exact isAbsolute_of_isName first
      | cons next rest =>
          rw [String.intercalate_cons_cons, String.append_assoc, isAbsolute_append first.solid]
          exact isAbsolute_of_isName first

/-- Joining adds parts, and whether the path ends in a slash does not matter. -/
theorem parts_join {rest : String} (h : isAbsolute rest = false) (path : String) :
    parts (join path rest) = parts path ++ parts rest := by
  rw [join, if_neg (by simp [h])]
  split
  · next bare =>
      rcases bare with rfl | slash
      · simp
      · obtain ⟨front, ends⟩ := List.getLast?_eq_some_iff.mp slash
        have cut : path = String.ofList front ++ "/" := by
          rw [← String.toList_inj, ends]
          simp
        have alone : parts path = parts (String.ofList front) := by
          simpa [cut] using parts_append (String.ofList front) ""
        rw [alone, cut, parts_append]
  · exact parts_append path rest

theorem isAbsolute_join {path : String} (h : isAbsolute path = true) (rest : String) :
    isAbsolute (join path rest) = true := by
  have solid : path ≠ "" := by
    rintro rfl
    contradiction
  unfold join
  split
  · assumption
  · split
    · rw [isAbsolute_append solid, h]
    · rw [String.append_assoc, isAbsolute_append solid, h]

theorem components_join {path rest : String} (h : isAbsolute path = true)
    (relative : isAbsolute rest = false) :
    components (join path rest) = components path ++ ofParts (parts rest) := by
  rw [components_of_absolute (isAbsolute_join h rest), components_of_absolute h,
    parts_join relative, ofParts_append]
  rfl

/-- An absolute path takes the place of what it is joined to. -/
theorem join_of_absolute {rest : String} (h : isAbsolute rest = true) (path : String) :
    join path rest = rest :=
  if_pos h

end LineShell.Path

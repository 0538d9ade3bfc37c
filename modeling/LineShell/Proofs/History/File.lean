import LineShell.Proofs.History.Entries

/-!
The file of a history, and what is read from it. Each escaped entry is a line of the file that
neither a newline nor a return before one can cut short, and each is read as it was.
-/
namespace LineShell

namespace Text

theorem fields_flatMap {mark : Char} {lines : List (List Char)} (h : ∀ line ∈ lines, mark ∉ line) :
    fields mark (lines.flatMap (· ++ [mark])) = lines ++ [[]] := by
  induction lines with
  | nil => rfl
  | cons line rest ih =>
      obtain ⟨first, others⟩ := List.forall_mem_cons.mp h
      rw [List.flatMap_cons, List.append_assoc, List.singleton_append, fields_append,
        fields_of_not_mem first, ih others, List.singleton_append, List.cons_append]

/-- A text made of lines is read as these lines, if none holds a newline or ends in a return. -/
theorem lines_join {lines : List String} (newline : ∀ line ∈ lines, '\n' ∉ line.toList)
    (ret : ∀ line ∈ lines, line.toList.getLast? ≠ some '\x0d') :
    Text.lines (String.join (lines.map (· ++ "\n"))) = lines := by
  have chars : (String.join (lines.map (· ++ "\n"))).toList =
      (lines.map String.toList).flatMap (· ++ ['\n']) := by
    simp [String.toList_join, List.flatMap_map]
  have whole : (lines.map String.toList).map chomp = lines.map String.toList := by
    rw [List.map_map]
    refine List.map_congr_left fun line mem => ?_
    exact if_neg (ret line mem)
  rw [Text.lines, chars, fields_flatMap (by simpa using newline)]
  simp [linesOf, whole]

end Text

namespace History

theorem escape_cons (c : Char) (rest : List Char) :
    (escapeEntry (String.ofList (c :: rest))).toList =
      (if c = '\\' then ['\\', '\\'] else if c = '\n' then ['\\', 'n'] else [c]) ++
        (escapeEntry (String.ofList rest)).toList := by
  simp [escapeEntry]

theorem unescapeAfter?_cons {c : Char} (h : c ≠ '\\') (done rest : List Char) :
    unescapeAfter? done (c :: rest) = unescapeAfter? (c :: done) rest := by
  conv => lhs; unfold unescapeAfter?
  split <;> simp_all

theorem unescapeAfter?_escape (done chars : List Char) :
    unescapeAfter? done (escapeEntry (String.ofList chars)).toList =
      some (done.reverse ++ chars) := by
  induction chars generalizing done with
  | nil => simp [escapeEntry, unescapeAfter?]
  | cons c rest ih =>
      rw [escape_cons]
      by_cases slash : c = '\\'
      · rw [slash, if_pos rfl, List.cons_append, List.cons_append, List.nil_append, unescapeAfter?,
          ih]
        simp
      by_cases newline : c = '\n'
      · rw [newline, if_neg (by decide), if_pos rfl, List.cons_append, List.cons_append,
          List.nil_append, unescapeAfter?, ih]
        simp
      · rw [if_neg slash, if_neg newline, List.singleton_append, unescapeAfter?_cons slash, ih]
        simp

theorem entryOfLine_escapeEntry (entry : String) : entryOfLine (escapeEntry entry) = entry := by
  have read := unescapeAfter?_escape [] entry.toList
  rw [String.ofList_toList] at read
  simp [entryOfLine, read]

theorem newline_not_mem_escapeEntry (entry : String) : '\n' ∉ (escapeEntry entry).toList := by
  simp only [escapeEntry, String.toList_ofList, List.mem_flatMap, not_exists, not_and]
  intro c _
  split
  · simp
  · split
    · simp
    · next newline => simpa using Ne.symm newline

theorem getLast?_escapeEntry {entry : String} (solid : entry.toList.getLast? ≠ some '\x0d') :
    (escapeEntry entry).toList.getLast? ≠ some '\x0d' := by
  rcases List.eq_nil_or_concat entry.toList with none | ⟨front, c, whole⟩
  · simp [escapeEntry, none]
  · rw [whole, List.concat_eq_append, List.getLast?_concat] at solid
    rw [escapeEntry, whole, String.toList_ofList, List.concat_eq_append, List.flatMap_append,
      List.flatMap_singleton]
    split
    · simp
    · split
      · simp
      · rwa [List.getLast?_concat]

/-- The lines of a history's file. -/
theorem lines_fileText {history : History} (tidy : history.Tidy) :
    Text.lines history.fileText = fileMark :: history.entries.map escapeEntry := by
  refine Text.lines_join ?_ ?_
  · refine List.forall_mem_cons.mpr ⟨by decide, fun line mem => ?_⟩
    obtain ⟨entry, -, rfl⟩ := List.mem_map.mp mem
    exact newline_not_mem_escapeEntry entry
  · refine List.forall_mem_cons.mpr ⟨by decide, fun line mem => ?_⟩
    obtain ⟨entry, inside, rfl⟩ := List.mem_map.mp mem
    refine getLast?_escapeEntry fun ret => ?_
    exact absurd ((tidy.trimmed entry inside).last _ ret) (by decide)

/-- A history that is saved and loaded again, with the same capacity, is the same. -/
theorem load_fileText {history : History} (tidy : history.Tidy) :
    ({ capacity := history.capacity } : History).load history.fileText =
      { history with grown := false } := by
  have fresh : ({ capacity := history.capacity } : History).entries =
      recent history.capacity [] := by simp [recent, List.rtake]
  have added := entries_foldl_add fresh tidy.trimmed
  rw [List.nil_append, tidy.recent_eq] at added
  have undone : entryOfLine ∘ escapeEntry = id := by
    funext entry
    rw [Function.comp_apply, entryOfLine_escapeEntry, id]
  have entries : (history.entries.map escapeEntry).map entryOfLine = history.entries := by
    rw [List.map_map, undone, List.map_id]
  rw [load, lines_fileText tidy]
  simp only [if_true, entries, foldl_add_capacity, added]

end History
end LineShell

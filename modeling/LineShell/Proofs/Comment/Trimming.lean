import LineShell.Proofs.Comment.Quoting
import LineShell.Proofs.Words.Reading

/-!
Trimming against the scan for words. The blanks around a line and before its comment are cut off
as characters, and the scan reads the same without them, except for one: a blank that a backslash
takes is part of a word, and once it is cut off the backslash has nothing to take.
-/
namespace LineShell
namespace Grammar

/-- Ends in a blank that a backslash takes, perhaps with more blanks after it. -/
inductive EscapedGap : List Char → Prop
  | intro {text gap} : OpenEscape text → Gap gap → gap ≠ [] → EscapedGap (text ++ gap)

theorem Gap.append {a b : List Char} (ha : Gap a) (hb : Gap b) : Gap (a ++ b) := fun c hc =>
  (List.mem_append.mp hc).elim (ha c) (hb c)

theorem Gap.isBlank {gap : List Char} (h : Gap gap) : ∀ c ∈ gap, Text.isBlank c = true := by
  intro c hc
  rcases h c hc with rfl | rfl <;> decide

theorem Line.gap_append {text gap : List Char} {values : List (List Char)} (h : Line text values)
    (hg : Gap gap) : Line (text ++ gap) values := by
  cases h with
  | blank ht => exact .blank (ht.append hg)
  | words hl hw ht =>
      rw [List.append_assoc]
      exact .words hl hw (ht.append hg)

theorem Quoted.gap_append {text value gap : List Char} (h : Quoted text value) (hg : Gap gap) :
    ∃ longer, Quoted (text ++ gap) longer := by
  induction gap generalizing text value with
  | nil => exact ⟨value, by rwa [List.append_nil]⟩
  | cons c rest ih =>
      have plain : c ≠ '"' ∧ c ≠ '\\' := by rcases hg c List.mem_cons_self with rfl | rfl <;> decide
      have := ih (h.plain plain.1 plain.2) fun d hd => hg d (List.mem_cons_of_mem _ hd)
      rwa [List.append_assoc] at this

/-- No blank closes a quote, and a waiting backslash only takes the first of them. -/
theorem OpenQuote.gap_append {text gap : List Char} (h : OpenQuote text) (hg : Gap gap) :
    OpenQuote (text ++ gap) := by
  cases h with
  | single hl ht =>
      rw [List.append_assoc, List.cons_append]
      refine .single hl ?_
      rw [List.mem_append, not_or]
      refine ⟨ht, fun mem => ?_⟩
      rcases hg _ mem with h | h <;> contradiction
  | double hl hq =>
      obtain ⟨longer, hq⟩ := hq.gap_append hg
      rw [List.append_assoc, List.cons_append]
      exact .double hl hq
  | @pending line values inside value hl hq =>
      cases gap with
      | nil => simpa using OpenQuote.pending hl hq
      | cons c rest =>
          obtain ⟨longer, hq⟩ := (hq.escaped c).gap_append
            fun d hd => hg d (List.mem_cons_of_mem _ hd)
          simpa using OpenQuote.double hl hq

theorem Line.quoting {text : List Char} {values : List (List Char)} (h : Line text values) :
    (({} : Scanner).scan text).quoting = {} := by
  obtain ⟨before, value, -, hs⟩ := Scanner.scan_line h
  rw [show ({} : Scanner) = .idle [] [] from rfl, hs]
  rfl

theorem foldl_step_gap {gap : List Char} (h : Gap gap) : gap.foldl Quoting.step {} = {} := by
  induction gap with
  | nil => rfl
  | cons c rest ih =>
      have passed : ({} : Quoting).step c = {} := by
        rcases h c List.mem_cons_self with rfl | rfl <;> rfl
      rw [List.foldl_cons, passed]
      exact ih fun d hd => h d (List.mem_cons_of_mem _ hd)

theorem finish_of_quoting {s : Scanner} (h : s.quoting = {}) : ∃ words, s.finish = .ok words := by
  obtain ⟨single, double, escaped, word, words⟩ := s
  obtain ⟨rfl, rfl, rfl⟩ := Quoting.mk.inj h
  exact ⟨_, rfl⟩

/-- The backslash takes the first blank and the others end its word. -/
theorem finish_escapedGap {text : List Char} (h : EscapedGap text) :
    ∃ words, (({} : Scanner).scan text).finish = .ok words := by
  cases h with
  | @intro _ gap he hg hne =>
      cases he with
      | intro hl =>
          cases gap with
          | nil => contradiction
          | cons c rest =>
              have rest_gap : Gap rest := fun d hd => hg d (List.mem_cons_of_mem _ hd)
              apply finish_of_quoting
              rw [List.append_assoc, Scanner.scan_append, Scanner.quoting_scan, hl.quoting]
              · show rest.foldl Quoting.step {} = {}
                exact foldl_step_gap rest_gap
              · rw [hl.quoting]
                nofun

theorem trimEnd_escapedGap {text : List Char} (h : EscapedGap text) :
    OpenEscape (Text.trimEnd text) ∧ Text.trimEnd text ≠ text := by
  cases h with
  | @intro _ gap he hg hne =>
      cases he with
      | @intro line values hl =>
          rw [Text.trimEnd_append_blanks _ hg.isBlank, Text.trimEnd_append_solid _ (by decide)]
          refine ⟨.intro hl, fun same => hne ?_⟩
          simpa using same

/-- Cutting off the blanks at the end is seen only where a backslash takes one of them. -/
theorem finish_trimEnd {text : List Char}
    (blanks : ∀ c ∈ text, Text.isBlank c = true → c = ' ' ∨ c = '\t') :
    (({} : Scanner).scan (Text.trimEnd text)).finish = (({} : Scanner).scan text).finish ↔
      ¬EscapedGap text := by
  constructor
  · intro same h
    obtain ⟨words, hw⟩ := finish_escapedGap h
    have refused := finish_openEscape (trimEnd_escapedGap h).1
    cases refused.symm.trans (same.trans hw)
  · intro h
    obtain ⟨gap, hb, eq⟩ := Text.eq_trimEnd_append text
    have hg : Gap gap := fun c hc =>
      blanks c (by rw [eq]; exact List.mem_append_right _ hc) (hb c hc)
    have longer : (({} : Scanner).scan text).finish =
        (({} : Scanner).scan (Text.trimEnd text ++ gap)).finish := by rw [← eq]
    rw [longer]
    rcases reads_finish (reads_line (Text.trimEnd text)) with ⟨values, hl, hf⟩ | ⟨hq, hf⟩ | ⟨he, -⟩
    · rw [hf, finish_line (hl.gap_append hg)]
    · rw [hf, finish_openQuote (hq.gap_append hg)]
    · by_cases hne : gap = []
      · rw [hne, List.append_nil]
      · refine absurd ?_ h
        rw [eq]
        exact .intro he hg hne

end Grammar

open Grammar

theorem uncommented_gap_append {gap : List Char} (h : Gap gap) (text : List Char) :
    uncommented {} (gap ++ text) = gap ++ uncommented {} text := by
  have plain : '#' ∉ gap := fun mem => by rcases h _ mem with h | h <;> contradiction
  rw [uncommented_append _ _ _ (uncommented_of_not_mem _ plain)]
  rw [show ({} : Scanner) = .idle [] [] from rfl, Scanner.scan_gap_of_nil h]

/-- The order of cutting does not matter: what is left is the part before the comment without the
blanks around it. -/
theorem effective_eq (line : String) : effective line = String.ofList
    (Text.trimEnd (uncommented {} (Text.trimStart line.toList))) := by
  obtain ⟨gap, hb, eq⟩ := Text.eq_trimEnd_append (Text.trimStart line.toList)
  have plain : '#' ∉ gap := fun mem => absurd (hb _ mem) (by decide)
  have whole : Text.trimEnd (uncommented {} (Text.trimStart line.toList)) =
      Text.trimEnd (uncommented {} (Text.trimEnd (Text.trimStart line.toList) ++ gap)) := by
    rw [← eq]
  unfold effective Text.trim
  rw [stripComment_ofList, whole]
  congr 1
  by_cases code : uncommented {} (Text.trimEnd (Text.trimStart line.toList)) =
      Text.trimEnd (Text.trimStart line.toList)
  · rw [if_pos code, uncommented_append _ _ _ code, uncommented_of_not_mem _ plain, ← eq]
  · rw [if_neg code, uncommented_append_of_ne _ _ _ code]

theorem scan_trimEnd_gap {gap : List Char} (h : Gap gap) (text : List Char) :
    ({} : Scanner).scan (Text.trimEnd (gap ++ text)) = ({} : Scanner).scan (Text.trimEnd text) := by
  rw [show ({} : Scanner) = .idle [] [] from rfl]
  by_cases blank : Text.trimEnd text = []
  · obtain ⟨rest, hb, eq⟩ := Text.eq_trimEnd_append text
    rw [blank, List.nil_append] at eq
    have nothing : Text.trimEnd ([] ++ (gap ++ text)) = Text.trimEnd [] :=
      Text.trimEnd_append_blanks [] fun c hc =>
        (List.mem_append.mp hc).elim (h.isBlank c) fun mem => hb c (eq ▸ mem)
    rw [List.nil_append] at nothing
    rw [blank, nothing, Text.trimEnd_nil]
  · rw [Text.trimEnd_append_of_ne _ blank, Scanner.scan_append, Scanner.scan_gap_of_nil h]

/-- What a line is read as once it is trimmed and its comment is gone. Reading the part before the
comment gives the same, unless that part ends in a blank that a backslash takes: with the blank
the line has words, and without it the line is refused. -/
theorem tokenize_effective_eq_iff (line : String)
    (blanks : ∀ c ∈ line.toList, Text.isBlank c = true → c = ' ' ∨ c = '\t') :
    (tokenize (effective line) = tokenize (String.ofList (uncommented {} line.toList)) ↔
      ¬EscapedGap (uncommented {} line.toList)) ∧
    (EscapedGap (uncommented {} line.toList) →
      tokenize (effective line) = .error .trailingEscape ∧
      ∃ words, tokenize (String.ofList (uncommented {} line.toList)) = .ok words) := by
  obtain ⟨gap, hb, eq⟩ := Text.eq_append_trimStart line.toList
  have hg : Gap gap := fun c hc => blanks c (by rw [eq]; exact List.mem_append_left _ hc) (hb c hc)
  have code : uncommented {} line.toList = gap ++ uncommented {} (Text.trimStart line.toList) := by
    rw [← uncommented_gap_append hg, ← eq]
  have read : tokenize (effective line) =
      (({} : Scanner).scan (Text.trimEnd (uncommented {} line.toList))).finish := by
    rw [effective_eq, tokenize, String.toList_ofList, code, scan_trimEnd_gap hg]
  have kept := (uncommented_begins {} line.toList).subset
  rw [read, tokenize, String.toList_ofList]
  refine ⟨finish_trimEnd fun c hc => blanks c (kept hc), fun h => ⟨?_, finish_escapedGap h⟩⟩
  exact finish_openEscape (trimEnd_escapedGap h).1

/-- A blank after a backslash at the end of a line is a word's last character, and is lost. -/
theorem tokenize_effective_escaped_blank :
    (∀ c ∈ "echo a\\ ".toList, Text.isBlank c = true → c = ' ' ∨ c = '\t') ∧
    tokenize (effective "echo a\\ ") = .error .trailingEscape ∧
    tokenize "echo a\\ " = .ok ["echo", "a "] ∧
    ¬(tokenize (effective "echo a\\ ") =
      tokenize (String.ofList (uncommented {} "echo a\\ ".toList))) := by
  have blanks : ∀ c ∈ "echo a\\ ".toList, Text.isBlank c = true → c = ' ' ∨ c = '\t' := by
    simp [Text.isBlank]
  have cut : uncommented {} "echo a\\ ".toList = "echo a\\".toList ++ [' '] := by rfl
  have waiting : OpenEscape "echo a\\".toList := (finish_eq_trailingEscape_iff _).mp rfl
  have ending : EscapedGap (uncommented {} "echo a\\ ".toList) := by
    rw [cut]
    exact .intro waiting (by simp [Gap]) (by simp)
  have result := tokenize_effective_eq_iff "echo a\\ " blanks
  exact ⟨blanks, (result.2 ending).1, rfl, fun same => result.1.mp same ending⟩

end LineShell

import LineShell.Proofs.Words.Grammar

/-!
The scan against the grammar. After each character the scan stands at one of five places of a
line; one step moves between them, so a whole scan ends at one. The place at the end decides what
the line is read as.
-/
namespace LineShell
namespace Grammar

theorem Gap.snoc {text : List Char} (h : Gap text) {c : Char} (hc : c = ' ' ∨ c = '\t') :
    Gap (text ++ [c]) := by
  intro d hd
  rcases List.mem_append.mp hd with hd | hd
  · exact h d hd
  · rw [List.mem_singleton] at hd
    rwa [hd]

/-- A line at whose end a word may begin: all blank so far, or with a gap after its words. -/
inductive Ready : List Char → List (List Char) → Prop
  | blank {text} : Gap text → Ready text []
  | words {lead text trail values} :
      Gap lead → Words text values → Gap trail → trail ≠ [] →
      Ready (lead ++ text ++ trail) values

theorem Ready.line {text : List Char} {values : List (List Char)} (h : Ready text values) :
    Line text values := by
  cases h with
  | blank hg => exact .blank hg
  | words hl hw ht _ => exact .words hl hw ht

theorem Ready.gap {text : List Char} {values : List (List Char)} (h : Ready text values)
    {c : Char} (hc : c = ' ' ∨ c = '\t') : Ready (text ++ [c]) values := by
  cases h with
  | blank hg => exact .blank (hg.snoc hc)
  | words hl hw ht _ =>
      rw [List.append_assoc]
      exact .words hl hw (ht.snoc hc) (by simp)

/-- A line that may go on with a word, split where that word begins. -/
theorem Ready.words_append {text next value : List Char} {values : List (List Char)}
    (h : Ready text values) (hw : Word next value) :
    ∃ lead words, Gap lead ∧ text ++ next = lead ++ words ∧ Words words (values ++ [value]) := by
  cases h with
  | blank hg => exact ⟨text, next, hg, rfl, .one hw⟩
  | @words lead text trail _ hl hws ht hne =>
      exact ⟨lead, text ++ trail ++ next, hl, by simp, .snoc hws ht hne hw⟩

theorem Ready.line_append {text next value : List Char} {values : List (List Char)}
    (h : Ready text values) (hw : Word next value) : Line (text ++ next) (values ++ [value]) := by
  obtain ⟨lead, words, hl, heq, hws⟩ := h.words_append hw
  have := Line.words hl hws (show Gap [] from nofun)
  rwa [heq, ← List.append_nil (lead ++ words)]

theorem Ready.gap_append {text next value : List Char} {values : List (List Char)}
    (h : Ready text values) (hw : Word next value) {c : Char} (hc : c = ' ' ∨ c = '\t') :
    Ready (text ++ next ++ [c]) (values ++ [value]) := by
  obtain ⟨lead, words, hl, heq, hws⟩ := h.words_append hw
  rw [heq]
  exact .words hl hws (by simpa [Gap] using hc) (by simp)

/-- A line with its finished words, and what the word begun stands for so far; nothing if none
has begun. -/
inductive Begun : List Char → List (List Char) → List Char → Prop
  | between {line values} : Ready line values → Begun line values []
  | within {line text values value} :
      Ready line values → Word text value → Begun (line ++ text) values value

theorem Begun.nil : Begun [] [] [] := .between (.blank nofun)

theorem Begun.snoc {text next meaning value : List Char} {values : List (List Char)}
    (h : Begun text values value) (hs : Segment next meaning) :
    Begun (text ++ next) values (value ++ meaning) := by
  cases h with
  | between hr => exact .within hr (.one hs)
  | within hr hw =>
      rw [List.append_assoc]
      exact .within hr (.snoc hw hs)

theorem Begun.line {text value : List Char} {values : List (List Char)}
    (h : Begun text values value) :
    ∃ finished, Line text finished ∧ shown finished = shown (values ++ [value]) := by
  cases h with
  | between hr => exact ⟨values, hr.line, by simp [shown_append]⟩
  | within hr hw => exact ⟨_, hr.line_append hw, rfl⟩

theorem Begun.gap {text value : List Char} {values : List (List Char)}
    (h : Begun text values value) {c : Char} (hc : c = ' ' ∨ c = '\t') :
    ∃ finished, Begun (text ++ [c]) finished [] ∧ shown finished = shown (values ++ [value]) := by
  cases h with
  | between hr => exact ⟨values, .between (hr.gap hc), by simp [shown_append]⟩
  | within hr hw => exact ⟨_, .between (hr.gap_append hw hc), rfl⟩

/-- What a scan holds after a text: its place in the line, the word begun and the words before. -/
inductive Reads : List Char → Scanner → Prop
  | idle {text values value} :
      Begun text values value → Reads text (.idle value.reverse (shown values).reverse)
  | escape {text values value} :
      Begun text values value →
      Reads (text ++ ['\\'])
        { escaped := true, word := value.reverse, words := (shown values).reverse }
  | single {text values value inside} :
      Begun text values value → '\x27' ∉ inside →
      Reads (text ++ '\x27' :: inside)
        { single := true, word := (value ++ inside).reverse, words := (shown values).reverse }
  | double {text values value inside meaning} :
      Begun text values value → Quoted inside meaning →
      Reads (text ++ '"' :: inside)
        { double := true, word := (value ++ meaning).reverse, words := (shown values).reverse }
  | doubleEscape {text values value inside meaning} :
      Begun text values value → Quoted inside meaning →
      Reads (text ++ '"' :: (inside ++ ['\\']))
        { double := true, escaped := true, word := (value ++ meaning).reverse,
          words := (shown values).reverse }

theorem reads_step_idle {text value : List Char} {values : List (List Char)}
    (h : Begun text values value) (c : Char) :
    Reads (text ++ [c]) ((Scanner.idle value.reverse (shown values).reverse).step c) := by
  by_cases blank : c = ' ' ∨ c = '\t'
  · obtain ⟨finished, hb, hf⟩ := h.gap blank
    rw [Scanner.step_blank blank, Scanner.flush_idle, ← hf]
    exact .idle hb
  by_cases single : c = '\x27'
  · subst single
    simpa [Scanner.step] using Reads.single h List.not_mem_nil
  by_cases double : c = '"'
  · subst double
    simpa [Scanner.step] using Reads.double h .nil
  by_cases escape : c = '\\'
  · subst escape
    simpa [Scanner.step] using Reads.escape h
  rw [not_or] at blank
  have bare : Bare c := ⟨blank.1, blank.2, single, double, escape⟩
  rw [Scanner.step_bare bare]
  simpa using Reads.idle (h.snoc (.bare bare))

theorem reads_step {text : List Char} {s : Scanner} (h : Reads text s) (c : Char) :
    Reads (text ++ [c]) (s.step c) := by
  cases h with
  | idle hb => exact reads_step_idle hb c
  | @escape text values value hb =>
      simpa [Scanner.step, Scanner.push] using Reads.idle (hb.snoc (.escaped c))
  | @single text values value inside hb hi =>
      by_cases closes : c = '\x27'
      · subst closes
        simpa [Scanner.step] using Reads.idle (hb.snoc (.single hi))
      · have inner : '\x27' ∉ inside ++ [c] := by simp [hi, Ne.symm closes]
        simpa [Scanner.step, Scanner.push, closes] using Reads.single hb inner
  | @double text values value inside meaning hb hq =>
      by_cases closes : c = '"'
      · subst closes
        simpa [Scanner.step] using Reads.idle (hb.snoc (.double hq))
      by_cases escape : c = '\\'
      · subst escape
        simpa [Scanner.step] using Reads.doubleEscape hb hq
      · simpa [Scanner.step, Scanner.push, closes, escape] using
          Reads.double hb (hq.plain closes escape)
  | @doubleEscape text values value inside meaning hb hq =>
      simpa [Scanner.step, Scanner.push] using Reads.double hb (hq.escaped c)

theorem reads_scan {before : List Char} {s : Scanner} (h : Reads before s) (text : List Char) :
    Reads (before ++ text) (s.scan text) := by
  induction text generalizing before s with
  | nil => rwa [List.append_nil]
  | cons c rest ih =>
      rw [← List.singleton_append, ← List.append_assoc]
      exact ih (reads_step h c)

theorem reads_line (text : List Char) : Reads text (({} : Scanner).scan text) :=
  reads_scan (.idle .nil) text

theorem finish_line {text : List Char} {values : List (List Char)} (h : Line text values) :
    (({} : Scanner).scan text).finish = .ok (shown values) := by
  obtain ⟨before, value, hv, hs⟩ := Scanner.scan_line h
  have ended := Scanner.flush_idle value before
  rw [show ({} : Scanner) = .idle [] [] from rfl, hs]
  simp [Scanner.finish, ended, hv]

theorem finish_openQuote {text : List Char} (h : OpenQuote text) :
    (({} : Scanner).scan text).finish = .error .unterminatedQuote := by
  rw [show ({} : Scanner) = .idle [] [] from rfl]
  cases h with
  | single hl ht =>
      obtain ⟨before, value, -, hs⟩ := Scanner.scan_line hl
      have opened := @Scanner.scan_single value.reverse (shown before).reverse _ ht
      rw [Scanner.scan_append, hs]
      simp [Scanner.step, opened, Scanner.finish]
  | double hl hq =>
      obtain ⟨before, value, -, hs⟩ := Scanner.scan_line hl
      have opened := @Scanner.scan_quoted value.reverse (shown before).reverse _ _ hq
      rw [Scanner.scan_append, hs]
      simp [Scanner.step, opened, Scanner.finish]
  | pending hl hq =>
      obtain ⟨before, value, -, hs⟩ := Scanner.scan_line hl
      have opened := @Scanner.scan_quoted value.reverse (shown before).reverse _ _ hq
      rw [Scanner.scan_append, hs]
      simp [Scanner.step, Scanner.scan_append, opened, Scanner.finish]

theorem finish_openEscape {text : List Char} (h : OpenEscape text) :
    (({} : Scanner).scan text).finish = .error .trailingEscape := by
  cases h with
  | intro hl =>
      obtain ⟨before, value, -, hs⟩ := Scanner.scan_line hl
      rw [show ({} : Scanner) = .idle [] [] from rfl, Scanner.scan_append, hs]
      simp [Scanner.step, Scanner.finish]

/-- How a scan can end, and the form that the text then has. -/
theorem reads_finish {text : List Char} {s : Scanner} (h : Reads text s) :
    (∃ values, Line text values ∧ s.finish = .ok (shown values)) ∨
      (OpenQuote text ∧ s.finish = .error .unterminatedQuote) ∨
      (OpenEscape text ∧ s.finish = .error .trailingEscape) := by
  cases h with
  | @idle _ values value hb =>
      obtain ⟨finished, hl, hf⟩ := hb.line
      have ended := Scanner.flush_idle value values
      exact .inl ⟨finished, hl, by simp [Scanner.finish, ended, hf]⟩
  | escape hb =>
      obtain ⟨finished, hl, -⟩ := hb.line
      exact .inr (.inr ⟨.intro hl, by simp [Scanner.finish]⟩)
  | single hb hi =>
      obtain ⟨finished, hl, -⟩ := hb.line
      exact .inr (.inl ⟨.single hl hi, by simp [Scanner.finish]⟩)
  | double hb hq =>
      obtain ⟨finished, hl, -⟩ := hb.line
      exact .inr (.inl ⟨.double hl hq, by simp [Scanner.finish]⟩)
  | doubleEscape hb hq =>
      obtain ⟨finished, hl, -⟩ := hb.line
      exact .inr (.inl ⟨.pending hl hq, by simp [Scanner.finish]⟩)

theorem finish_eq_ok_iff (text : List Char) (words : List String) :
    (({} : Scanner).scan text).finish = .ok words ↔
      ∃ values, Line text values ∧ words = shown values := by
  constructor
  · intro h
    rcases reads_finish (reads_line text) with ⟨values, hl, hf⟩ | ⟨-, hf⟩ | ⟨-, hf⟩
    · exact ⟨values, hl, Except.ok.inj (h.symm.trans hf)⟩
    · cases h.symm.trans hf
    · cases h.symm.trans hf
  · rintro ⟨values, hl, rfl⟩
    exact finish_line hl

theorem finish_eq_unterminatedQuote_iff (text : List Char) :
    (({} : Scanner).scan text).finish = .error .unterminatedQuote ↔ OpenQuote text := by
  refine ⟨fun h => ?_, finish_openQuote⟩
  rcases reads_finish (reads_line text) with ⟨_, -, hf⟩ | ⟨hq, -⟩ | ⟨-, hf⟩
  · cases h.symm.trans hf
  · exact hq
  · cases h.symm.trans hf

theorem finish_eq_trailingEscape_iff (text : List Char) :
    (({} : Scanner).scan text).finish = .error .trailingEscape ↔ OpenEscape text := by
  refine ⟨fun h => ?_, finish_openEscape⟩
  rcases reads_finish (reads_line text) with ⟨_, -, hf⟩ | ⟨-, hf⟩ | ⟨he, -⟩
  · cases h.symm.trans hf
  · cases h.symm.trans hf
  · exact he

/-- The quotes are looked at first: with one of them open a waiting backslash is not reported. -/
theorem finish_quotes_iff (s : Scanner) :
    (s.finish = .error .unterminatedQuote ↔ s.single = true ∨ s.double = true) ∧
    (s.finish = .error .trailingEscape ↔
      ¬(s.single = true ∨ s.double = true) ∧ s.escaped = true) := by
  unfold Scanner.finish
  by_cases quotes : s.single = true ∨ s.double = true
  · simp [quotes]
  · by_cases escape : s.escaped = true <;> simp [quotes, escape]

/-- The words of a line are those of its written form. A line without one ends inside a quote or
with a backslash that has nothing to take, and is refused for just that. -/
theorem tokenize_reads_grammar (line : String) :
    (∀ words, tokenize line = .ok words ↔
      ∃ values, Line line.toList values ∧ words = shown values) ∧
    (tokenize line = .error .unterminatedQuote ↔ OpenQuote line.toList) ∧
    (tokenize line = .error .trailingEscape ↔ OpenEscape line.toList) ∧
    (∀ e, tokenize line = .error e → e = .unterminatedQuote ∨ e = .trailingEscape) ∧
    let ending := ({} : Scanner).scan line.toList
    (tokenize line = .error .unterminatedQuote ↔ ending.single = true ∨ ending.double = true) ∧
    (tokenize line = .error .trailingEscape ↔
      ¬(ending.single = true ∨ ending.double = true) ∧ ending.escaped = true) := by
  refine ⟨finish_eq_ok_iff _, finish_eq_unterminatedQuote_iff _, finish_eq_trailingEscape_iff _, ?_,
    finish_quotes_iff _⟩
  intro e h
  rcases reads_finish (reads_line line.toList) with ⟨_, -, hf⟩ | ⟨-, hf⟩ | ⟨-, hf⟩
  · cases h.symm.trans hf
  · exact .inl (Except.error.inj (h.symm.trans hf))
  · exact .inr (Except.error.inj (h.symm.trans hf))

end Grammar
end LineShell

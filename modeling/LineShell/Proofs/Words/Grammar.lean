import LineShell.Words

/-!
The written form of a line. The relations below say which texts are segments, words and lines and
what they stand for; they know nothing of the scan. Scanning a text that one of them derives adds
exactly what the text stands for.
-/
namespace LineShell
namespace Grammar

def Gap (text : List Char) : Prop :=
  ∀ c ∈ text, c = ' ' ∨ c = '\t'

def Bare (c : Char) : Prop :=
  c ≠ ' ' ∧ c ≠ '\t' ∧ c ≠ '\x27' ∧ c ≠ '"' ∧ c ≠ '\\'

inductive Quoted : List Char → List Char → Prop
  | nil : Quoted [] []
  | plain {text value c} :
      Quoted text value → c ≠ '"' → c ≠ '\\' → Quoted (text ++ [c]) (value ++ [c])
  | escaped {text value} (c) : Quoted text value → Quoted (text ++ ['\\', c]) (value ++ [c])

inductive Segment : List Char → List Char → Prop
  | bare {c} : Bare c → Segment [c] [c]
  | escaped (c) : Segment ['\\', c] [c]
  | single {text} : '\x27' ∉ text → Segment ('\x27' :: text ++ ['\x27']) text
  | double {text value} : Quoted text value → Segment ('"' :: text ++ ['"']) value

inductive Word : List Char → List Char → Prop
  | one {text value} : Segment text value → Word text value
  | snoc {text value next meaning} :
      Word text value → Segment next meaning → Word (text ++ next) (value ++ meaning)

inductive Words : List Char → List (List Char) → Prop
  | one {text value} : Word text value → Words text [value]
  | snoc {text values gap next value} :
      Words text values → Gap gap → gap ≠ [] → Word next value →
      Words (text ++ gap ++ next) (values ++ [value])

/-- A line and what each of its words stands for. -/
inductive Line : List Char → List (List Char) → Prop
  | blank {text} : Gap text → Line text []
  | words {lead text trail values} :
      Gap lead → Words text values → Gap trail → Line (lead ++ text ++ trail) values

/-- The words that a line shows: those that stand for something. -/
def shown (values : List (List Char)) : List String :=
  (values.filter (· ≠ [])).map String.ofList

/-- A line, and after it a quote that is not closed. -/
inductive OpenQuote : List Char → Prop
  | single {line values text} :
      Line line values → '\x27' ∉ text → OpenQuote (line ++ '\x27' :: text)
  | double {line values text value} :
      Line line values → Quoted text value → OpenQuote (line ++ '"' :: text)
  | pending {line values text value} :
      Line line values → Quoted text value → OpenQuote (line ++ '"' :: (text ++ ['\\']))

inductive OpenEscape : List Char → Prop
  | intro {line values} : Line line values → OpenEscape (line ++ ['\\'])

theorem shown_append (a b : List (List Char)) : shown (a ++ b) = shown a ++ shown b := by
  simp [shown]

@[simp] theorem shown_nil : shown [] = [] := rfl

@[simp] theorem shown_empty : shown [[]] = [] := rfl

end Grammar

namespace Scanner
open Grammar

abbrev idle (word : List Char) (words : List String) : Scanner := { word, words }

theorem flush_idle (value : List Char) (values : List (List Char)) :
    (idle value.reverse (shown values).reverse).flush =
      idle [] (shown (values ++ [value])).reverse := by
  cases value with
  | nil => simp [flush, shown_append]
  | cons c rest => simp [flush, shown]

variable {word : List Char} {words : List String}

theorem step_bare {c : Char} (h : Bare c) : (idle word words).step c = idle (c :: word) words := by
  simp [step, push, h.1, h.2.1, h.2.2.1, h.2.2.2.1, h.2.2.2.2]

theorem step_blank {c : Char} (h : c = ' ' ∨ c = '\t') :
    (idle word words).step c = (idle word words).flush := by
  rcases h with rfl | rfl <;> simp [step]

theorem scan_single {text : List Char} (h : '\x27' ∉ text) :
    ({ single := true, word, words } : Scanner).scan text =
      { single := true, word := text.reverse ++ word, words } := by
  induction text generalizing word with
  | nil => rfl
  | cons c rest ih =>
      rw [List.mem_cons, not_or] at h
      simp [step, push, Ne.symm h.1, ih h.2]

theorem scan_quoted {text value : List Char} (h : Quoted text value) :
    ({ double := true, word, words } : Scanner).scan text =
      { double := true, word := value.reverse ++ word, words } := by
  induction h with
  | nil => rfl
  | plain _ hq he ih => simp [scan_append, ih, step, push, hq, he]
  | escaped c _ ih => simp [scan_append, ih, step, push]

theorem scan_segment {text value : List Char} (h : Segment text value) :
    (idle word words).scan text = idle (value.reverse ++ word) words := by
  cases h with
  | bare h => simp [step_bare h]
  | escaped c => simp [step, push]
  | single h =>
      have opened : (idle word words).step '\x27' = { single := true, word, words } := by
        simp [step]
      simp only [List.cons_append, scan_cons, opened, scan_append, scan_single h]
      simp [step]
  | double h =>
      have opened : (idle word words).step '"' = { double := true, word, words } := by
        simp [step]
      simp only [List.cons_append, scan_cons, opened, scan_append, scan_quoted h]
      simp [step]

theorem scan_word {text value : List Char} (h : Word text value) :
    (idle word words).scan text = idle (value.reverse ++ word) words := by
  induction h with
  | one hs => exact scan_segment hs
  | snoc _ hs ih => simp [scan_append, ih, scan_segment hs]

theorem scan_gap_of_nil {gap : List Char} (h : Gap gap) :
    (idle [] words).scan gap = idle [] words := by
  induction gap with
  | nil => rfl
  | cons c rest ih =>
      rw [scan_cons, step_blank (h c List.mem_cons_self)]
      exact ih fun d hd => h d (List.mem_cons_of_mem _ hd)

/-- A gap ends the word begun, however long it is. -/
theorem scan_gap {gap : List Char} (h : Gap gap) (hne : gap ≠ []) (value : List Char)
    (values : List (List Char)) :
    (idle value.reverse (shown values).reverse).scan gap =
      idle [] (shown (values ++ [value])).reverse := by
  cases gap with
  | nil => contradiction
  | cons c rest =>
      rw [scan_cons, step_blank (h c List.mem_cons_self), flush_idle]
      exact scan_gap_of_nil fun d hd => h d (List.mem_cons_of_mem _ hd)

/-- After words the last of them is still open: only what follows can end it. -/
theorem scan_words {text : List Char} {values : List (List Char)} (h : Words text values) :
    ∃ before value, values = before ++ [value] ∧
      (idle [] []).scan text = idle value.reverse (shown before).reverse := by
  induction h with
  | @one text value hw => exact ⟨[], value, rfl, by simp [scan_word hw]⟩
  | @snoc text values gap next value _ hg hne hw ih =>
      obtain ⟨before, last, rfl, hs⟩ := ih
      refine ⟨before ++ [last], value, rfl, ?_⟩
      rw [scan_append, scan_append, hs, scan_gap hg hne, scan_word hw, List.append_nil]

theorem scan_line {text : List Char} {values : List (List Char)} (h : Line text values) :
    ∃ before value, shown values = shown (before ++ [value]) ∧
      (idle [] []).scan text = idle value.reverse (shown before).reverse := by
  cases h with
  | blank hg => exact ⟨[], [], rfl, scan_gap_of_nil hg⟩
  | @words lead text trail _ hl hw ht =>
      obtain ⟨before, value, rfl, hs⟩ := scan_words hw
      rw [scan_append, scan_append, scan_gap_of_nil hl, hs]
      by_cases hne : trail = []
      · exact ⟨before, value, rfl, by rw [hne, scan_nil]⟩
      · refine ⟨before ++ [value], [], ?_, scan_gap ht hne value before⟩
        simp only [shown_append, shown_empty, List.append_nil]

end Scanner
end LineShell

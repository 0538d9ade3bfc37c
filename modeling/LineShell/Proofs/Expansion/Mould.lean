import LineShell.Proofs.Comment.Quoting
import LineShell.Proofs.Expansion.Live
import Mathlib.Data.List.Chain

/-!
Words with places for values. A line is scanned below before its values are put in, each reference
taken as one part of the word that it stands in. Values that are plain where they stand are taken
whole by the scan for words, so that scan and the putting in of values can change places.
-/
namespace LineShell

inductive Part where
  | char (c : Char)
  | value (name : String)
  deriving DecidableEq, Repr

abbrev Mould := List Part

def Part.fill (lookup : String → Option String) : Part → List Char
  | char c => [c]
  | value name => ((lookup name).getD "").toList

def Mould.fill (lookup : String → Option String) (mould : Mould) : String :=
  String.ofList (mould.flatMap (Part.fill lookup))

def Mould.Fixed (mould : Mould) : Prop :=
  ∀ name, Part.value name ∉ mould

def Piece.parts : Piece → List Part
  | copied text => text.map Part.char
  | reference name => [.value (String.ofList name)]

inductive Effect where
  | kept
  | cut
  | dropped

def Quoting.effect (q : Quoting) (c : Char) : Effect :=
  if q.escaped then .kept
  else if q.single then if c = '\x27' then .dropped else .kept
  else if c = '\\' then .dropped
  else if q.double then if c = '"' then .dropped else .kept
  else if c = '\x27' ∨ c = '"' then .dropped
  else if c = ' ' ∨ c = '\t' then .cut
  else .kept

namespace Scanner

def withQuoting (s : Scanner) (q : Quoting) : Scanner :=
  { s with single := q.single, double := q.double, escaped := q.escaped }

/-- A step is one for the quotes and one for the words. -/
theorem step_eq {s : Scanner} (h : s.quoting.Coherent) (c : Char) :
    s.step c = (match s.quoting.effect c with
      | .kept => s.push c
      | .cut => s.flush
      | .dropped => s).withQuoting (s.quoting.step c) := by
  rw [← quoting_step h]
  obtain ⟨single, double, escaped, word, words⟩ := s
  cases escaped with
  | true => rfl
  | false =>
      cases single with
      | true =>
          by_cases tick : c = '\x27' <;>
            simp [step, Quoting.effect, quoting, withQuoting, push, tick]
      | false =>
          by_cases backslash : c = '\\'
          · simp [step, Quoting.effect, quoting, withQuoting, backslash]
          cases double with
          | true =>
              by_cases mark : c = '"' <;>
                simp [step, Quoting.effect, quoting, withQuoting, push, backslash, mark]
          | false =>
              by_cases quote : c = '\x27' ∨ c = '"'
              · rcases quote with rfl | rfl <;> rfl
              · rw [not_or] at quote
                by_cases blank : c = ' ' ∨ c = '\t'
                · rcases blank with rfl | rfl <;> rfl
                · simp [step, Quoting.effect, quoting, withQuoting, push, backslash, quote, blank]

end Scanner

/-- A scan of a line before its values are put in. The word begun and the words before it come
newest first, as in a scanner. -/
structure Sketch where
  quoting : Quoting := {}
  word : Mould := []
  words : List Mould := []

namespace Sketch

def flush (d : Sketch) : Sketch :=
  if d.word.isEmpty then d else { d with word := [], words := d.word.reverse :: d.words }

def step (d : Sketch) : Part → Sketch
  | .value name => { d with word := .value name :: d.word }
  | .char c =>
      { (match d.quoting.effect c with
          | .kept => { d with word := .char c :: d.word }
          | .cut => d.flush
          | .dropped => d) with quoting := d.quoting.step c }

def scan (d : Sketch) (parts : List Part) : Sketch :=
  parts.foldl step d

theorem scan_append (d : Sketch) (a b : List Part) : d.scan (a ++ b) = (d.scan a).scan b := by
  simp [scan]

def finish (d : Sketch) : Except LineError (List Mould) :=
  if d.quoting.single ∨ d.quoting.double then .error .unterminatedQuote
  else if d.quoting.escaped then .error .trailingEscape
  else .ok d.flush.words.reverse

def fill (lookup : String → Option String) (d : Sketch) : Scanner where
  single := d.quoting.single
  double := d.quoting.double
  escaped := d.quoting.escaped
  word := d.word.flatMap fun part => (part.fill lookup).reverse
  words := d.words.map (Mould.fill lookup)

end Sketch

def operatorChars : List Char := ['2', '<', '>', '|', '&']

def Quoting.Special (q : Quoting) (c : Char) : Prop :=
  if q.single then c = '\x27'
  else if q.double then c = '"' ∨ c = '\\'
  else c ∈ [' ', '\t', '\x27', '"', '\\']

/-- A value that has no special character where it is put in, and is not written with the characters
of operators alone; so it is not empty either. -/
structure Fits (q : Quoting) (value : List Char) : Prop where
  plain : ∀ c ∈ value, ¬q.Special c
  telling : ∃ c ∈ value, c ∉ operatorChars

/-- Every value put in fits its place: where the scan for words, begun in `s`, is after all that
stands to the left, values put in. -/
def Harmless (lookup : String → Option String) (s : Scanner) (ps : List Piece) : Prop :=
  ∀ before name after, ps = before ++ .reference name :: after →
    Fits (s.scan (before.flatMap fun piece => (piece.value lookup).toList)).quoting
      (Piece.value lookup (.reference name)).toList

theorem Harmless.head {lookup : String → Option String} {s : Scanner} {name : List Char}
    {rest : List Piece} (h : Harmless lookup s (.reference name :: rest)) :
    Fits s.quoting (Piece.value lookup (.reference name)).toList :=
  h [] name rest rfl

theorem Harmless.tail {lookup : String → Option String} {s : Scanner} {piece : Piece}
    {rest : List Piece} (h : Harmless lookup s (piece :: rest)) :
    Harmless lookup (s.scan (piece.value lookup).toList) rest := by
  rintro before name after rfl
  have := h (piece :: before) name after rfl
  rwa [List.flatMap_cons, Scanner.scan_append] at this

section
variable {lookup : String → Option String}

instance (q : Quoting) (c : Char) : Decidable (q.Special c) := by
  unfold Quoting.Special
  infer_instance

theorem fits_iff {q : Quoting} {value : List Char} :
    Fits q value ↔ (value.all fun c => !decide (q.Special c)) = true ∧
      (value.any fun c => !decide (c ∈ operatorChars)) = true := by
  have same : Fits q value ↔ (∀ c ∈ value, ¬q.Special c) ∧ ∃ c ∈ value, c ∉ operatorChars :=
    ⟨fun h => ⟨h.plain, h.telling⟩, fun h => ⟨h.1, h.2⟩⟩
  simpa using same

instance (q : Quoting) (value : List Char) : Decidable (Fits q value) :=
  decidable_of_iff _ fits_iff.symm

theorem harmless_nil {s : Scanner} : Harmless lookup s [] := by
  intro before name after eq
  simp at eq

theorem harmless_cons {s : Scanner} {piece : Piece} {rest : List Piece} :
    Harmless lookup s (piece :: rest) ↔
      (piece.name?.isSome → Fits s.quoting (piece.value lookup).toList) ∧
        Harmless lookup (s.scan (piece.value lookup).toList) rest := by
  constructor
  · intro h
    refine ⟨fun named => ?_, h.tail⟩
    cases piece with
    | copied text => contradiction
    | reference name => exact h.head
  · rintro ⟨here, later⟩ before name after eq
    cases before with
    | nil =>
        obtain ⟨rfl, rfl⟩ := List.cons.inj eq
        exact here rfl
    | cons first others =>
        obtain ⟨rfl, rfl⟩ := List.cons.inj eq
        rw [List.flatMap_cons, Scanner.scan_append]
        exact later others name after rfl

instance decidableHarmless : (s : Scanner) → (ps : List Piece) → Decidable (Harmless lookup s ps)
  | _, [] => .isTrue harmless_nil
  | s, piece :: rest =>
      have := decidableHarmless (s.scan (piece.value lookup).toList) rest
      decidable_of_iff _ harmless_cons.symm

end

namespace Sketch
variable {lookup : String → Option String}

/-- Part of a value that cannot be mistaken for an operator, or a character. -/
def Telling (lookup : String → Option String) (part : Part) : Prop :=
  ∀ name, part = .value name → ∃ c ∈ part.fill lookup, c ∉ operatorChars

theorem fill_ne_nil {part : Part} (h : Telling lookup part) : part.fill lookup ≠ [] := by
  cases part with
  | char c => simp [Part.fill]
  | value name =>
      obtain ⟨c, mem, -⟩ := h name rfl
      exact List.ne_nil_of_mem mem

structure Apt (lookup : String → Option String) (d : Sketch) : Prop where
  coherent : d.quoting.Coherent
  word : ∀ part ∈ d.word, Telling lookup part
  words : ∀ mould ∈ d.words, ∀ part ∈ mould, Telling lookup part

@[simp] theorem quoting_fill (d : Sketch) : (d.fill lookup).quoting = d.quoting := rfl

theorem flush_fill {d : Sketch} (h : ∀ part ∈ d.word, Telling lookup part) :
    (d.fill lookup).flush = d.flush.fill lookup := by
  obtain ⟨quoting, word, words⟩ := d
  cases word with
  | nil => rfl
  | cons part rest =>
      have some : (part.fill lookup).reverse ++
          rest.flatMap (fun part => (part.fill lookup).reverse) ≠ [] := by
        simp [fill_ne_nil (h part List.mem_cons_self)]
      simp only [fill, Scanner.flush, flush, List.flatMap_cons, List.isEmpty_iff, some, if_false,
        List.isEmpty_cons, Bool.false_eq_true, List.flatMap_nil, List.map_cons, Mould.fill]
      congr 2
      simp [List.reverse_flatMap, Function.comp_def]

theorem Apt.flush {d : Sketch} (h : d.Apt lookup) : d.flush.Apt lookup := by
  unfold Sketch.flush
  split
  · exact h
  · refine ⟨h.coherent, nofun, ?_⟩
    exact List.forall_mem_cons.mpr ⟨fun part mem => h.word part (List.mem_reverse.mp mem), h.words⟩

theorem step_char {d : Sketch} (h : d.Apt lookup) (c : Char) :
    (d.fill lookup).step c = (d.step (.char c)).fill lookup ∧ (d.step (.char c)).Apt lookup := by
  have coherent := Quoting.coherent_step h.coherent c
  rw [Scanner.step_eq (s := d.fill lookup) h.coherent, quoting_fill]
  cases effect : d.quoting.effect c with
  | kept =>
      simp only [step, effect]
      refine ⟨rfl, coherent, ?_, h.words⟩
      exact List.forall_mem_cons.mpr ⟨nofun, h.word⟩
  | cut =>
      simp only [step, effect]
      rw [flush_fill h.word]
      exact ⟨rfl, coherent, h.flush.word, h.flush.words⟩
  | dropped =>
      simp only [step, effect]
      exact ⟨rfl, coherent, h.word, h.words⟩

theorem scan_chars {d : Sketch} (h : d.Apt lookup) (text : List Char) :
    (d.fill lookup).scan text = (d.scan (text.map Part.char)).fill lookup ∧
      (d.scan (text.map Part.char)).Apt lookup := by
  induction text generalizing d with
  | nil => exact ⟨rfl, h⟩
  | cons c rest ih =>
      obtain ⟨same, apt⟩ := step_char h c
      rw [Scanner.scan_cons, same]
      exact ih apt

end Sketch

theorem Scanner.step_plain {s : Scanner} (free : s.escaped = false) {c : Char}
    (h : ¬s.quoting.Special c) : s.step c = s.push c := by
  obtain ⟨single, double, escaped, word, words⟩ := s
  cases free
  cases single with
  | true =>
      have plain : c ≠ '\x27' := by simpa [Quoting.Special, Scanner.quoting] using h
      simp [Scanner.step, plain]
  | false =>
      cases double with
      | true =>
          have plain : c ≠ '"' ∧ c ≠ '\\' := by
            simpa [Quoting.Special, Scanner.quoting] using h
          simp [Scanner.step, plain]
      | false =>
          have plain : c ≠ ' ' ∧ c ≠ '\t' ∧ c ≠ '\x27' ∧ c ≠ '"' ∧ c ≠ '\\' := by
            simpa [Quoting.Special, Scanner.quoting] using h
          simp [Scanner.step, plain]

theorem Scanner.scan_plain {s : Scanner} (free : s.escaped = false) {value : List Char}
    (h : ∀ c ∈ value, ¬s.quoting.Special c) :
    s.scan value = { s with word := value.reverse ++ s.word } := by
  induction value generalizing s with
  | nil => rfl
  | cons c rest ih =>
      rw [List.forall_mem_cons] at h
      rw [Scanner.scan_cons, Scanner.step_plain free h.1, ih (s := s.push c) free h.2]
      simp [Scanner.push]

theorem Sketch.step_value {lookup : String → Option String} {d : Sketch} (h : d.Apt lookup)
    (free : d.quoting.escaped = false) {name : List Char}
    (fits : Fits d.quoting (Piece.value lookup (.reference name)).toList) :
    (d.fill lookup).scan (Piece.value lookup (.reference name)).toList =
        (d.step (.value (String.ofList name))).fill lookup ∧
      (d.step (.value (String.ofList name))).Apt lookup := by
  refine ⟨?_, h.coherent, ?_, h.words⟩
  · rw [Scanner.scan_plain (s := d.fill lookup) free fits.plain]
    rfl
  · refine List.forall_mem_cons.mpr ⟨fun _ _ => fits.telling, h.word⟩

def Piece.Settled : Piece → Prop
  | copied text => ∃ c, text.getLast? = some c ∧ c ≠ '\\'
  | reference _ => True

def Piece.Follows (piece next : Piece) : Prop :=
  ∀ name, next = reference name → piece.Settled

theorem head?_pieces_of_ne {text : List Char} (h : text.head? ≠ some '$') (name : List Char) :
    (pieces text).head? ≠ some (.reference name) := by
  cases text with
  | nil => simp
  | cons c rest =>
      have plain : c ≠ '$' := fun sign => h (by rw [sign]; rfl)
      rw [pieces_cons, nextPiece]
      by_cases slashed : c = '\\' ∧ rest.head? = some '$'
      · rw [if_pos slashed]
        simp
      · rw [if_neg slashed, if_neg plain]
        simp

/-- A backslash before a dollar sign is one piece with it, so no reference comes after a backslash
that is a piece of its own. -/
theorem settled_nextPiece (c : Char) (rest : List Char) :
    (nextPiece c rest).1.Settled ∨ (nextPiece c rest).2.head? ≠ some '$' := by
  by_cases slashed : c = '\\' ∧ rest.head? = some '$'
  · rw [nextPiece, if_pos slashed]
    exact .inl ⟨'$', rfl, by decide⟩
  by_cases sign : c = '$'
  · rw [nextPiece, if_neg slashed, if_pos sign]
    cases hr : reference? rest with
    | some ref =>
        obtain ⟨after, -, -, hp⟩ := dollarPiece_of_some hr
        rw [hp]
        exact .inl trivial
    | none =>
        obtain ⟨kept, after, -, -, noSlash, hp⟩ := dollarPiece_of_none hr
        rw [hp]
        refine .inl ⟨_, List.getLast?_eq_getLast_of_ne_nil (List.cons_ne_nil _ _), fun last => ?_⟩
        have mem := List.getLast_mem (List.cons_ne_nil '$' kept)
        rw [last] at mem
        rcases List.mem_cons.mp mem with h | h
        · contradiction
        · exact noSlash h
  · rw [nextPiece, if_neg slashed, if_neg sign]
    by_cases slash : c = '\\'
    · exact .inr fun next => slashed ⟨slash, next⟩
    · exact .inl ⟨c, rfl, slash⟩

theorem isChain_pieces (text : List Char) : (pieces text).IsChain Piece.Follows := by
  induction hn : text.length using Nat.strongRecOn generalizing text with
  | ind n ih =>
      subst hn
      cases text with
      | nil => simp
      | cons c rest =>
          rw [pieces_cons, List.isChain_cons]
          refine ⟨fun next first name same => ?_, ?_⟩
          · rcases settled_nextPiece c rest with settled | other
            · exact settled
            · subst same
              exact absurd first (head?_pieces_of_ne other name)
          · exact ih _ (Nat.lt_succ_of_le (length_nextPiece_le c rest)) _ rfl

theorem escaped_scan_settled {text : List Char} (h : (Piece.copied text).Settled) (s : Scanner) :
    (s.scan text).escaped = false := by
  obtain ⟨c, last, plain⟩ := h
  obtain ⟨front, rfl⟩ := List.getLast?_eq_some_iff.mp last
  rw [Scanner.scan_append, ← Bool.not_eq_true, Scanner.scan_cons, Scanner.scan_nil, escaped_step]
  exact fun waits => plain waits.1

namespace Sketch
variable {lookup : String → Option String}

theorem scan_piece {d : Sketch} (apt : d.Apt lookup) {piece : Piece}
    (start : d.quoting.escaped = true → ∀ name, piece ≠ .reference name)
    (fits : ∀ name, piece = .reference name → Fits d.quoting (piece.value lookup).toList) :
    (d.fill lookup).scan (piece.value lookup).toList = (d.scan piece.parts).fill lookup ∧
      (d.scan piece.parts).Apt lookup ∧
      (piece.Settled → (d.scan piece.parts).quoting.escaped = false) := by
  cases piece with
  | copied text =>
      have whole : (Piece.value lookup (.copied text)).toList = text := String.toList_ofList
      obtain ⟨same, apt'⟩ := scan_chars apt text
      refine ⟨by rw [whole]; exact same, apt', fun settled => ?_⟩
      have free := escaped_scan_settled settled (d.fill lookup)
      rwa [same] at free
  | reference name =>
      have free : d.quoting.escaped = false := by
        rw [← Bool.not_eq_true]
        exact fun waits => start waits name rfl
      obtain ⟨same, apt'⟩ := step_value apt free (fits name rfl)
      exact ⟨same, apt', fun _ => free⟩

/-- Putting values in and scanning for words can change places. -/
theorem scan_pieces {d : Sketch} (apt : d.Apt lookup) {ps : List Piece}
    (chain : ps.IsChain Piece.Follows)
    (start : d.quoting.escaped = true → ∀ name, ps.head? ≠ some (.reference name))
    (harmless : Harmless lookup (d.fill lookup) ps) :
    (d.fill lookup).scan (ps.flatMap fun piece => (piece.value lookup).toList) =
        (d.scan (ps.flatMap Piece.parts)).fill lookup ∧
      (d.scan (ps.flatMap Piece.parts)).Apt lookup := by
  induction ps generalizing d with
  | nil => exact ⟨rfl, apt⟩
  | cons piece rest ih =>
      obtain ⟨settled, others⟩ := List.isChain_cons.mp chain
      obtain ⟨same, apt', free⟩ := scan_piece apt
        (fun waits name first => start waits name (congrArg some first))
        (by rintro name rfl; exact harmless.head)
      have later := harmless.tail
      rw [same] at later
      rw [List.flatMap_cons, Scanner.scan_append, same, List.flatMap_cons, scan_append]
      -- A backslash may wait after this piece, but then no reference comes next.
      refine ih apt' others (fun waits name first => ?_) later
      rw [free (settled _ first name rfl)] at waits
      contradiction

theorem Apt.finish {d : Sketch} (apt : d.Apt lookup) {moulds : List Mould}
    (h : d.finish = .ok moulds) : ∀ mould ∈ moulds, ∀ part ∈ mould, Telling lookup part := by
  unfold Sketch.finish at h
  split at h
  · contradiction
  · split at h
    · contradiction
    · cases h
      exact fun mould mem => apt.flush.words mould (List.mem_reverse.mp mem)

theorem finish_fill {d : Sketch} (apt : d.Apt lookup) :
    (d.fill lookup).finish = d.finish.map (List.map (Mould.fill lookup)) := by
  unfold Scanner.finish finish
  have ended := flush_fill apt.word
  by_cases quotes : d.quoting.single = true ∨ d.quoting.double = true
  · rw [if_pos quotes]
    simp [fill, quotes, Except.map]
  · rw [if_neg quotes]
    by_cases waits : d.quoting.escaped = true
    · simp [fill, quotes, waits, Except.map]
    · rw [ended]
      simp [fill, quotes, waits, Except.map]

end Sketch
end LineShell

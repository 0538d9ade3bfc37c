import LineShell.Proofs.Expansion.Regex
import LineShell.Proofs.Expansion.Sites
import Mathlib.Data.Nat.Find

/-!
Expansion as one pass. A line is cut from the left into stretches, at each place the first kind
that fits, and there is one such cut. The pattern for references matches just the stretches that are
no single characters, so replacing its matches asks for the names in the stretches, each once and in
order, whatever the answers are, and puts the answers in their places.
-/
namespace LineShell
variable {σ : Type}

/-- A stretch of a line: a dollar sign after a backslash, one before braces, one before a name, or
any one character. -/
inductive Stretch where
  | escaped
  | braced (body : List Char)
  | named (name : List Char)
  | single (c : Char)
  deriving DecidableEq, Repr

namespace Stretch

def written : Stretch → List Char
  | .escaped => ['\\', '$']
  | .braced body => '$' :: '\x7b' :: body ++ ['\x7d']
  | .named name => '$' :: name
  | .single c => [c]

/-- Whether a stretch may stand before a text: braces end at the first that closes, and a name is as
long as it can be. -/
def Fits : Stretch → List Char → Prop
  | .escaped, _ | .single _, _ => True
  | .braced body, _ => '\x7d' ∉ body
  | .named name, after =>
      name ≠ [] ∧ (∀ c ∈ name, isNameChar c = true) ∧ ∀ c ∈ after.head?, isNameChar c = false

def rank : Stretch → Nat
  | .escaped => 0
  | .braced _ => 1
  | .named _ => 2
  | .single _ => 3

/-- Whether a stretch is the first to be tried of those that the text before `after` allows. -/
def Begins (stretch : Stretch) (after : List Char) : Prop :=
  stretch.Fits after ∧ ∀ (other : Stretch) (later : List Char),
    other.written ++ later = stretch.written ++ after → other.Fits later →
      stretch.rank ≤ other.rank

def name? : Stretch → Option String
  | .braced (c :: body) => some (String.ofList (c :: body))
  | .named name => some (String.ofList name)
  | _ => none

def value (lookup : String → Option String) (stretch : Stretch) : String :=
  match stretch.name? with
  | some name => (lookup name).getD ""
  | none => String.ofList stretch.written

end Stretch

inductive Stretches : List Char → List Stretch → Prop
  | nil : Stretches [] []
  | cons {stretch : Stretch} {after : List Char} {rest : List Stretch} :
      stretch.Begins after → Stretches after rest →
      Stretches (stretch.written ++ after) (stretch :: rest)

def escapedSign : Regex :=
  .seq (.literal '\\') (.literal '$')

def bracedName : Regex :=
  .seq (.literal '$') (.seq (.literal '\x7b')
    (.seq (.group 1 (.many (· ≠ '\x7d'))) (.literal '\x7d')))

def plainName : Regex :=
  .seq (.literal '$') (.group 2 (.seq (.one isNameChar) (.many isNameChar)))

def variablePattern : Regex :=
  .either escapedSign (.either bracedName plainName)

def Hit.name? (hit : Hit) : Option (List Char) :=
  ((hit.groups.lookup 1).or (hit.groups.lookup 2)).filter (· ≠ [])

/-- What a match becomes: what is answered to its name, or itself. Asking may change a state. -/
def substitute (ask : String → σ → Option String × σ) (hit : Hit) (s : σ) : List Char × σ :=
  match hit.name? with
  | some name =>
      let (answer, s) := ask (String.ofList name) s
      ((answer.getD "").toList, s)
  | none => (hit.taken, s)

def expandAsking (ask : String → σ → Option String × σ) (line : String) (s : σ) : String × σ :=
  let (text, s) := variablePattern.replaceAll (substitute ask) line.toList s
  (String.ofList text, s)

def askAll (ask : String → σ → Option String × σ) : List String → σ → List (Option String) × σ
  | [], s => ([], s)
  | name :: rest, s =>
      let (answer, s) := ask name s
      let (answers, s) := askAll ask rest s
      (answer :: answers, s)

def fill : List Stretch → List (Option String) → List Char
  | [], _ => []
  | stretch :: rest, answers =>
      match stretch.name?, answers with
      | some _, answer :: later => (answer.getD "").toList ++ fill rest later
      | _, _ => stretch.written ++ fill rest answers

theorem fill_named {stretch : Stretch} {name : String} (h : stretch.name? = some name)
    (rest : List Stretch) (answer : Option String) (later : List (Option String)) :
    fill (stretch :: rest) (answer :: later) = (answer.getD "").toList ++ fill rest later := by
  simp only [fill, h]

theorem fill_unnamed {stretch : Stretch} (h : stretch.name? = none) (rest : List Stretch)
    (answers : List (Option String)) :
    fill (stretch :: rest) answers = stretch.written ++ fill rest answers := by
  simp only [fill, h]

theorem takeWhile_append_of_head {p : Char → Bool} {front after : List Char}
    (inside : ∀ c ∈ front, p c = true) (outside : ∀ c ∈ after.head?, p c = false) :
    (front ++ after).takeWhile p = front ∧ (front ++ after).dropWhile p = after := by
  rw [List.takeWhile_append_of_pos inside, List.dropWhile_append_of_pos inside]
  cases after with
  | nil => simp
  | cons c rest => simp [outside c rfl]

namespace Stretch

theorem written_eq_cons (stretch : Stretch) : ∃ c more, stretch.written = c :: more := by
  cases stretch <;> exact ⟨_, _, rfl⟩

theorem exists_begins (c : Char) (rest : List Char) :
    ∃ (stretch : Stretch) (after : List Char),
      stretch.written ++ after = c :: rest ∧ stretch.Begins after := by
  have some : ∃ n, ∃ (stretch : Stretch) (after : List Char), stretch.rank = n ∧
      stretch.written ++ after = c :: rest ∧ stretch.Fits after :=
    ⟨3, .single c, rest, rfl, rfl, trivial⟩
  classical
  obtain ⟨stretch, after, first, text, fits⟩ := Nat.find_spec some
  refine ⟨stretch, after, text, fits, fun other later same others => first ▸ ?_⟩
  exact Nat.find_min' some ⟨other, later, rfl, same.trans text, others⟩

theorem Begins.unique {a b : Stretch} {x y : List Char} (ha : a.Begins x) (hb : b.Begins y)
    (same : a.written ++ x = b.written ++ y) : a = b ∧ x = y := by
  have ranks : a.rank = b.rank :=
    Nat.le_antisymm (ha.2 b y same.symm hb.1) (hb.2 a x same ha.1)
  cases a with
  | escaped =>
      cases b <;> simp [rank] at ranks
      exact ⟨rfl, by simpa [written] using same⟩
  | braced body =>
      cases b <;> simp [rank] at ranks
      next other =>
        have cuts : body ++ '\x7d' :: x = other ++ '\x7d' :: y := by simpa [written] using same
        have parts := congrArg (Text.cut? '\x7d') cuts
        rw [Text.cut?_append ha.1, Text.cut?_append hb.1] at parts
        simpa using parts
  | named name =>
      cases b <;> simp [rank] at ranks
      next other =>
        obtain ⟨-, inside, outside⟩ := ha.1
        obtain ⟨-, inside', outside'⟩ := hb.1
        have texts : name ++ x = other ++ y := by simpa [written] using same
        have first := takeWhile_append_of_head inside outside
        have second := takeWhile_append_of_head inside' outside'
        rw [texts] at first
        exact ⟨congrArg _ (first.1.symm.trans second.1), first.2.symm.trans second.2⟩
  | single c =>
      cases b <;> simp [rank] at ranks
      simpa [written] using same

/-- A character by itself begins no reference, and is no backslash before a dollar sign. -/
theorem Begins.plain {c : Char} {after : List Char} (h : (single c).Begins after) :
    ¬(c = '\\' ∧ after.head? = some '$') ∧
      (c = '$' → (∀ inside, after = '\x7b' :: inside → Text.cut? '\x7d' inside = none) ∧
        after.takeWhile isNameChar = []) := by
  have least (other : Stretch) (later : List Char) (same : other.written ++ later = c :: after)
      (fits : other.Fits later) : 3 ≤ other.rank := h.2 other later same fits
  refine ⟨?_, ?_⟩
  · rintro ⟨rfl, sign⟩
    obtain ⟨rest, rfl⟩ := List.head?_eq_some_iff.mp sign
    exact absurd (least .escaped rest rfl trivial) (by decide)
  · rintro rfl
    constructor
    · rintro inside rfl
      cases cut : Text.cut? '\x7d' inside with
      | none => rfl
      | some parts =>
          obtain ⟨rfl, closed⟩ := Text.cut?_eq_some cut
          exact absurd (least (.braced parts.1) parts.2 (by simp [written]) closed)
            (show ¬3 ≤ 1 by decide)
    · by_contra some
      have fits : (named (after.takeWhile isNameChar)).Fits (after.dropWhile isNameChar) := by
        refine ⟨some, fun c mem => List.all_eq_true.mp List.all_takeWhile c mem, fun c mem => ?_⟩
        have := List.head?_dropWhile_not isNameChar after
        rw [Option.mem_def.mp mem] at this
        simpa using this
      exact absurd (least _ _ (by simp [written]) fits) (show ¬3 ≤ 2 by decide)

def piece : Stretch → Piece
  | .braced (c :: body) => .reference (c :: body)
  | .named name => .reference name
  | stretch => .copied stretch.written

theorem name?_piece (stretch : Stretch) : stretch.piece.name? = stretch.name? := by
  cases stretch with
  | braced body => cases body <;> rfl
  | escaped | named _ | single _ => rfl

theorem value_piece (lookup : String → Option String) (stretch : Stretch) :
    stretch.piece.value lookup = stretch.value lookup := by
  cases stretch with
  | braced body => cases body <;> rfl
  | escaped | named _ | single _ => rfl

/-- A name does not begin with a brace. -/
theorem unbraced_name {name after : List Char} (some : name ≠ [])
    (inside : ∀ c ∈ name, isNameChar c = true) {others : List Char} :
    name ++ after ≠ '\x7b' :: others := by
  intro brace
  cases name with
  | nil => contradiction
  | cons d more =>
      obtain ⟨rfl, -⟩ := List.cons.inj brace
      exact absurd (inside _ List.mem_cons_self) (by decide)

theorem nextPiece_dollar (rest : List Char) : nextPiece '$' rest = dollarPiece rest := by
  simp [nextPiece]

theorem pieces_of_begins {stretch : Stretch} {after : List Char} (h : stretch.Begins after) :
    pieces (stretch.written ++ after) = stretch.piece :: pieces after := by
  cases stretch with
  | escaped => exact pieces_cons '\\' ('$' :: after)
  | braced body =>
      have closed := Text.cut?_append h.1 after
      have next : nextPiece '$' ('\x7b' :: (body ++ '\x7d' :: after)) =
          ((braced body).piece, after) := by
        rw [nextPiece_dollar, dollarPiece, closed]
        cases body <;> rfl
      simp only [written, List.cons_append, List.append_assoc, List.nil_append]
      rw [pieces_cons, next]
  | named name =>
      obtain ⟨some, inside, outside⟩ := h.1
      obtain ⟨front, back⟩ := takeWhile_append_of_head inside outside
      have next : nextPiece '$' (name ++ after) = ((named name).piece, after) := by
        rw [nextPiece_dollar, dollarPiece_of_unbraced fun _ => unbraced_name some inside, front,
          back]
        cases name with
        | nil => contradiction
        | cons d more => rfl
      rw [written, List.cons_append, pieces_cons, next]
  | single c =>
      obtain ⟨unescaped, signs⟩ := h.plain
      have next : nextPiece c after = ((single c).piece, after) := by
        rw [nextPiece, if_neg unescaped]
        split
        · next sign =>
            obtain ⟨unclosed, unnamed⟩ := signs sign
            subst sign
            unfold dollarPiece
            split
            · next inside =>
                rw [unclosed inside rfl]
                rfl
            · rw [unnamed]
              rfl
        · rfl
      rw [written, List.cons_append, List.nil_append, pieces_cons, next]

def hit? (stretch : Stretch) (left : List Char) : Option Hit :=
  match stretch with
  | .escaped => some { taken := stretch.written, left }
  | .braced body => some { taken := stretch.written, groups := [(1, body)], left }
  | .named name => some { taken := stretch.written, groups := [(2, name)], left }
  | .single _ => none

open Regex in
theorem hits_escapedSign (c : Char) (rest : List Char) :
    escapedSign.hits (c :: rest) =
      if c = '\\' ∧ rest.head? = some '$' then [{ taken := ['\\', '$'], left := rest.tail }]
      else [] := by
  rw [escapedSign, hits_literal_seq]
  by_cases slash : c = '\\'
  · cases rest with
    | nil => simp [slash, literal, hits]
    | cons d more => by_cases sign : d = '$' <;> simp [slash, sign, literal, hits, Hit.after]
  · simp [slash]

open Regex in
theorem hits_bracedName (inside : List Char) :
    bracedName.hits ('$' :: '\x7b' :: inside) =
      match Text.cut? '\x7d' inside with
      | some (body, left) =>
          [{ taken := (braced body).written, groups := [(1, body)], left }]
      | none => [] := by
  rw [bracedName, hits_literal_seq, if_pos rfl, hits_literal_seq, if_pos rfl, hits_upTo]
  cases Text.cut? '\x7d' inside <;> rfl

open Regex in
theorem hits_bracedName_eq_nil {c : Char} {rest : List Char}
    (h : c = '$' → ∀ inside, rest = '\x7b' :: inside → Text.cut? '\x7d' inside = none) :
    bracedName.hits (c :: rest) = [] := by
  by_cases sign : c = '$'
  · subst sign
    rw [bracedName, hits_literal_seq, if_pos rfl]
    cases rest with
    | nil => rfl
    | cons d inside =>
        rw [hits_literal_seq]
        split
        · next brace =>
            rw [hits_upTo, h rfl inside (by rw [brace])]
            rfl
        · rfl
  · rw [bracedName, hits_literal_seq, if_neg sign]

open Regex in
theorem head?_hits_plainName (c : Char) (rest : List Char) :
    (plainName.hits (c :: rest)).head? =
      match rest.takeWhile isNameChar with
      | [] => none
      | name =>
          if c = '$' then
            some { taken := (named name).written, groups := [(2, name)],
                   left := rest.dropWhile isNameChar }
          else none := by
  rw [plainName, hits_literal_seq]
  split
  · next sign =>
      rw [List.head?_map, head?_hits_some]
      cases rest.takeWhile isNameChar <;> simp [written, Hit.after, sign]
  · cases rest.takeWhile isNameChar <;> rfl

theorem head?_hits_of_begins {stretch : Stretch} {after : List Char} (h : stretch.Begins after) :
    (variablePattern.hits (stretch.written ++ after)).head? = stretch.hit? after := by
  simp only [variablePattern, Regex.hits, List.head?_append]
  cases stretch with
  | escaped => rfl
  | braced body =>
      have text : (braced body).written ++ after =
          '$' :: '\x7b' :: (body ++ '\x7d' :: after) := by simp [written]
      rw [text, hits_escapedSign, hits_bracedName, Text.cut?_append h.1]
      rfl
  | named name =>
      obtain ⟨some, inside, outside⟩ := h.1
      obtain ⟨front, back⟩ := takeWhile_append_of_head inside outside
      have unbraced : bracedName.hits ('$' :: (name ++ after)) = [] :=
        hits_bracedName_eq_nil fun _ others brace => absurd brace (unbraced_name some inside)
      rw [written, List.cons_append, hits_escapedSign, unbraced, head?_hits_plainName, front, back]
      cases name with
      | nil => contradiction
      | cons d more => rfl
  | single c =>
      obtain ⟨unescaped, signs⟩ := h.plain
      have unbraced := hits_bracedName_eq_nil fun sign => (signs sign).1
      have unnamed : (plainName.hits (c :: after)).head? = none := by
        rw [head?_hits_plainName]
        split
        · rfl
        · next some => exact if_neg fun sign => some (signs sign).2
      rw [written, List.cons_append, List.nil_append, hits_escapedSign, if_neg unescaped, unbraced,
        unnamed]
      rfl

/-- A match is a stretch that refers to the same name, and none is a single character. -/
theorem Begins.hit {stretch : Stretch} {after : List Char} (h : stretch.Begins after) :
    (∃ hit, stretch.hit? after = some hit ∧ hit.taken = stretch.written ∧ hit.left = after ∧
      hit.name?.map String.ofList = stretch.name?) ∨
    stretch.hit? after = none ∧ ∃ c, stretch = .single c := by
  cases stretch with
  | escaped => exact .inl ⟨_, rfl, rfl, rfl, rfl⟩
  | braced body =>
      refine .inl ⟨_, rfl, rfl, rfl, ?_⟩
      cases body <;> rfl
  | named name =>
      refine .inl ⟨_, rfl, rfl, rfl, ?_⟩
      cases name with
      | nil => exact absurd rfl h.1.1
      | cons c more => rfl
  | single c => exact .inr ⟨rfl, c, rfl⟩

end Stretch

theorem exists_stretches (text : List Char) : ∃ stretches, Stretches text stretches := by
  induction hn : text.length using Nat.strongRecOn generalizing text with
  | ind n ih =>
      cases text with
      | nil => exact ⟨[], .nil⟩
      | cons c rest =>
          obtain ⟨stretch, after, same, begins⟩ := Stretch.exists_begins c rest
          obtain ⟨d, more, written⟩ := stretch.written_eq_cons
          have shorter : after.length < n := by
            have lengths := congrArg List.length same
            rw [written] at lengths
            simp only [List.cons_append, List.length_cons, List.length_append] at lengths hn
            omega
          obtain ⟨stretches, cut⟩ := ih _ shorter after rfl
          exact ⟨stretch :: stretches, same ▸ .cons begins cut⟩

theorem Stretches.unique {text : List Char} {stretches others : List Stretch}
    (cut : Stretches text stretches) (other : Stretches text others) : others = stretches := by
  induction cut generalizing others with
  | nil =>
      generalize none : [] = text at other
      cases other with
      | nil => rfl
      | @cons stretch _ _ _ _ =>
          obtain ⟨c, more, written⟩ := stretch.written_eq_cons
          rw [written] at none
          contradiction
  | @cons stretch after rest begins _ ih =>
      generalize same : stretch.written ++ after = text at other
      cases other with
      | nil =>
          obtain ⟨c, more, written⟩ := stretch.written_eq_cons
          rw [written] at same
          contradiction
      | cons others_begin tail =>
          obtain ⟨rfl, rfl⟩ := begins.unique others_begin same
          rw [ih tail]

theorem Stretches.pieces {text : List Char} {stretches : List Stretch}
    (cut : Stretches text stretches) : pieces text = stretches.map Stretch.piece := by
  induction cut with
  | nil => exact pieces_nil
  | cons begins _ ih => rw [Stretch.pieces_of_begins begins, ih, List.map_cons]

theorem Stretches.replaceAll {text : List Char} {stretches : List Stretch}
    (cut : Stretches text stretches) (ask : String → σ → Option String × σ) (s : σ) :
    variablePattern.replaceAll (substitute ask) text s =
      (fill stretches (askAll ask (stretches.filterMap Stretch.name?) s).1,
        (askAll ask (stretches.filterMap Stretch.name?) s).2) := by
  induction cut generalizing s with
  | nil => simp [Regex.replaceAll, fill, askAll]
  | @cons stretch after rest begins _ ih =>
      have head := Stretch.head?_hits_of_begins begins
      rcases begins.hit with ⟨hit, found, taken, left, named⟩ | ⟨missed, d, rfl⟩
      · obtain ⟨c, front, written⟩ := stretch.written_eq_cons
        have shorter : hit.left.length ≤ (front ++ after).length := by simp [left]
        rw [written, List.cons_append] at head ⊢
        rw [Regex.replaceAll_hit (head.trans found) shorter, left, List.filterMap_cons, ← named]
        cases same : hit.name? with
        | none =>
            rw [same] at named
            simp only [substitute, same, ih, taken, Option.map_none, fill_unnamed named.symm]
        | some name =>
            rw [same] at named
            simp only [substitute, same, ih, Option.map_some, askAll, fill_named named.symm]
      · rw [missed, List.head?_eq_none_iff] at head
        rw [Stretch.written, List.cons_append, List.nil_append] at head ⊢
        rw [Regex.replaceAll_miss head, ih, List.filterMap_cons_none rfl, fill_unnamed rfl]
        rfl

theorem askAll_pure (lookup : String → Option String) (names : List String) (s : σ) :
    askAll (fun name s => (lookup name, s)) names s = (names.map lookup, s) := by
  induction names with
  | nil => rfl
  | cons name rest ih => simp [askAll, ih]

theorem fill_map (lookup : String → Option String) (stretches : List Stretch) :
    String.ofList (fill stretches ((stretches.filterMap Stretch.name?).map lookup)) =
      String.join (stretches.map (Stretch.value lookup)) := by
  induction stretches with
  | nil => rfl
  | cons stretch rest ih =>
      rw [List.map_cons, String.join_cons, ← ih, Stretch.value, List.filterMap_cons]
      cases named : stretch.name? with
      | none => simp [fill_unnamed named]
      | some name => simp [fill_named named]

/-- Every line is cut into stretches in exactly one way. Its references are the names in the
stretches, each once and in order. A line becomes what its stretches become one after another; and
if every match of the pattern is replaced, the names are asked for in that order and no others,
whatever is answered and whatever asking does, and the answers are put in as they are. -/
theorem expandVariables_one_pass (line : String) :
    ∃ stretches, (∀ others, Stretches line.toList others ↔ others = stretches) ∧
      references line = stretches.filterMap Stretch.name? ∧
      (∀ lookup, expandVariables lookup line =
        String.join (stretches.map (Stretch.value lookup))) ∧
      (∀ {σ : Type} (ask : String → σ → Option String × σ) (s : σ), expandAsking ask line s =
        let (answers, last) := askAll ask (references line) s
        (String.ofList (fill stretches answers), last)) ∧
      ∀ {σ : Type} (lookup : String → Option String) (s : σ),
        expandAsking (fun name s => (lookup name, s)) line s =
          (expandVariables lookup line, s) := by
  obtain ⟨stretches, cut⟩ := exists_stretches line.toList
  have names : references line = stretches.filterMap Stretch.name? := by
    rw [references, cut.pieces, List.filterMap_map]
    exact List.filterMap_congr fun stretch _ => stretch.name?_piece
  have values lookup : expandVariables lookup line =
      String.join (stretches.map (Stretch.value lookup)) := by
    rw [expandVariables, cut.pieces, List.map_map]
    exact congrArg _ (List.map_congr_left fun stretch _ => stretch.value_piece lookup)
  have asked {σ : Type} (ask : String → σ → Option String × σ) (s : σ) : expandAsking ask line s =
      let (answers, last) := askAll ask (references line) s
      (String.ofList (fill stretches answers), last) := by
    rw [expandAsking, cut.replaceAll, names]
  refine ⟨stretches, fun others => ⟨cut.unique, fun same => same ▸ cut⟩, names, values, asked, ?_⟩
  intro σ lookup s
  rw [asked, askAll_pure, values, names]
  exact congrArg (·, s) (fill_map lookup stretches)

/-- Braces may hold anything but their end, and a value that looks like a reference stays. -/
example : expandVariables (fun name => if name = "A" then some "$\x7bA\x7d" else none)
    "$A$\x7b\x7d$$A-$\x7b$A\x7d\\$A" =
    "$\x7bA\x7d$\x7b\x7d$$\x7bA\x7d-\\$A" := by decide +kernel

end LineShell

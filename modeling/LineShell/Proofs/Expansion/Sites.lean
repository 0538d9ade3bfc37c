import LineShell.Expansion.Variables
import Mathlib.Data.List.Infix

/-!
Where a line refers to variables. Whether a dollar sign begins a reference is told from what
follows it, and whether that reference is live from what stands before it. The line is expanded
below for any such judgement; two judgements expand a line alike, whatever the variables are, just
when they agree at every reference in it.
-/
namespace LineShell

structure Reference where
  name : List Char
  written : List Char
  deriving DecidableEq, Repr

def reference? (rest : List Char) : Option Reference :=
  match rest with
  | '\x7b' :: inside =>
      match Text.cut? '\x7d' inside with
      | some (c :: name, _) =>
          some { name := c :: name, written := '\x7b' :: c :: name ++ ['\x7d'] }
      | _ => none
  | _ =>
      match rest.takeWhile isNameChar with
      | [] => none
      | name => some { name, written := name }

/-- A text with values put in for its live references; a dollar sign is judged by all that stands
before it, which starts as `before`. -/
def expandWhere (live : List Char → Bool) (lookup : String → Option String) (before : List Char) :
    List Char → List Char
  | [] => []
  | c :: rest =>
      match if c = '$' ∧ live before then reference? rest else none with
      | some ref =>
          (Piece.value lookup (.reference ref.name)).toList ++
            expandWhere live lookup (before ++ c :: ref.written) (rest.drop ref.written.length)
      | none => c :: expandWhere live lookup (before ++ [c]) rest
termination_by text => text.length

def Alike (live other : List Char → Bool) (before text : List Char) : Prop :=
  ∀ lookup, expandWhere live lookup before text = expandWhere other lookup before text

def Site (text before after : List Char) : Prop :=
  text = before ++ '$' :: after ∧ (reference? after).isSome

def braced (text : List Char) : List Char :=
  match text with
  | '$' :: '\x7b' :: inside => ((Text.cut? '\x7d' inside).map Prod.fst).getD []
  | _ => []

def NamesOnly (text : List Char) : Prop :=
  ∀ rest ∈ text.tails, (braced rest).all isNameChar = true

instance (text : List Char) : Decidable (NamesOnly text) :=
  inferInstanceAs (Decidable (∀ rest ∈ text.tails, (braced rest).all isNameChar = true))

theorem mem_takeWhile_isNameChar {text : List Char} {c : Char}
    (h : c ∈ text.takeWhile isNameChar) : isNameChar c = true :=
  List.all_eq_true.mp List.all_takeWhile c h

theorem dollarPiece_of_unbraced {rest : List Char} (h : ∀ inside, rest = '\x7b' :: inside → False) :
    dollarPiece rest =
      match rest.takeWhile isNameChar with
      | [] => (.copied ['$'], rest)
      | name => (.reference name, rest.dropWhile isNameChar) := by
  unfold dollarPiece
  split
  · exact (h _ rfl).elim
  · rfl

theorem dollarPiece_of_some {rest : List Char} {ref : Reference} (h : reference? rest = some ref) :
    ∃ after, rest = ref.written ++ after ∧ ref.written.getLast? ≠ some '\\' ∧
      dollarPiece rest = (.reference ref.name, after) := by
  unfold reference? at h
  split at h
  · next inside =>
      split at h
      · next c name after hc =>
          cases h
          refine ⟨after, ?_, ?_, by simp only [dollarPiece, hc]⟩
          · simp [(Text.cut?_eq_some hc).1]
          · rw [List.getLast?_concat]
            decide
      · contradiction
  · next unbraced =>
      split at h
      · contradiction
      · next named =>
          cases h
          refine ⟨rest.dropWhile isNameChar, List.takeWhile_append_dropWhile.symm, ?_, ?_⟩
          · intro last
            exact absurd (mem_takeWhile_isNameChar (List.mem_of_getLast? last)) (by decide)
          · rw [dollarPiece_of_unbraced unbraced]
            split
            · contradiction
            · rfl

theorem dollarPiece_of_none {rest : List Char} (h : reference? rest = none) :
    ∃ kept after, rest = kept ++ after ∧ '$' ∉ kept ∧ '\\' ∉ kept ∧
      dollarPiece rest = (.copied ('$' :: kept), after) := by
  unfold reference? at h
  split at h
  · next inside =>
      split at h
      · contradiction
      · next unnamed =>
          cases hc : Text.cut? '\x7d' inside with
          | none => exact ⟨[], _, rfl, nofun, nofun, by simp only [dollarPiece, hc]⟩
          | some parts =>
              obtain ⟨_ | ⟨c, name⟩, after⟩ := parts
              · refine ⟨['\x7b', '\x7d'], after, ?_, by decide, by decide, ?_⟩
                · simp [(Text.cut?_eq_some hc).1]
                · simp only [dollarPiece, hc]
              · exact absurd hc (unnamed c name after)
  · next unbraced =>
      split at h
      · next named =>
          refine ⟨[], rest, rfl, nofun, nofun, ?_⟩
          rw [dollarPiece_of_unbraced unbraced, named]
      · contradiction

/-- A text is empty, or begins with a reference, or with a character that begins none. -/
theorem sites_induction {motive : List Char → Prop} (nil : motive [])
    (reference : ∀ ref after, reference? (ref.written ++ after) = some ref →
      motive (ref.written ++ after) → motive after → motive ('$' :: (ref.written ++ after)))
    (plain : ∀ c rest, ¬(c = '$' ∧ (reference? rest).isSome) → motive rest → motive (c :: rest))
    (text : List Char) : motive text := by
  induction hn : text.length using Nat.strongRecOn generalizing text with
  | ind n ih =>
      subst hn
      cases text with
      | nil => exact nil
      | cons c rest =>
          by_cases site : c = '$' ∧ (reference? rest).isSome
          · obtain ⟨rfl, some⟩ := site
            obtain ⟨ref, hr⟩ := Option.isSome_iff_exists.mp some
            obtain ⟨after, rfl, -, -⟩ := dollarPiece_of_some hr
            refine reference ref after hr (ih _ (by simp) _ rfl) (ih _ ?_ _ rfl)
            simp only [List.length_cons, List.length_append]
            omega
          · exact plain c rest site (ih _ (by simp) _ rfl)

section
variable {live other : List Char → Bool} {lookup : String → Option String} {before : List Char}

@[simp] theorem expandWhere_nil : expandWhere live lookup before [] = [] := by
  simp [expandWhere]

theorem expandWhere_live {ref : Reference} {after : List Char} (hl : live before = true)
    (hr : reference? (ref.written ++ after) = some ref) :
    expandWhere live lookup before ('$' :: (ref.written ++ after)) =
      (Piece.value lookup (.reference ref.name)).toList ++
        expandWhere live lookup (before ++ '$' :: ref.written) after := by
  rw [expandWhere, if_pos ⟨rfl, hl⟩, hr]
  simp

theorem expandWhere_kept {c : Char} {rest : List Char}
    (h : ¬(c = '$' ∧ live before = true ∧ (reference? rest).isSome)) :
    expandWhere live lookup before (c :: rest) =
      c :: expandWhere live lookup (before ++ [c]) rest := by
  have dead : (if c = '$' ∧ live before = true then reference? rest else none) = none := by
    split
    · next sign => exact Option.not_isSome_iff_eq_none.mp fun some => h ⟨sign.1, sign.2, some⟩
    · rfl
  rw [expandWhere, dead]

theorem expandWhere_append {kept after : List Char} (h : '$' ∉ kept) :
    expandWhere live lookup before (kept ++ after) =
      kept ++ expandWhere live lookup (before ++ kept) after := by
  induction kept generalizing before with
  | nil => simp
  | cons c rest ih =>
      rw [List.mem_cons, not_or] at h
      rw [List.cons_append, expandWhere_kept fun sign => h.1 sign.1.symm, ih h.2]
      simp

/-- Judgements that agree at the references expand a text alike. -/
theorem alike_of_agree {text : List Char}
    (agree : ∀ front after, Site text front after →
      live (before ++ front) = other (before ++ front)) : Alike live other before text := by
  intro lookup
  induction text using sites_induction generalizing before with
  | nil => simp
  | reference ref after hr keptIh ih =>
      have here : live before = other before := by
        simpa using agree [] _ ⟨rfl, Option.isSome_iff_exists.mpr ⟨ref, hr⟩⟩
      by_cases hl : live before = true
      · rw [expandWhere_live hl hr, expandWhere_live (here ▸ hl) hr]
        congr 1
        apply ih
        rintro front rest ⟨rfl, some⟩
        simpa using agree ('$' :: ref.written ++ front) rest ⟨by simp, some⟩
      · rw [expandWhere_kept fun sign => hl sign.2.1,
          expandWhere_kept fun sign => hl (here ▸ sign.2.1)]
        congr 1
        apply keptIh
        rintro front rest ⟨eq, some⟩
        simpa using agree ('$' :: front) rest ⟨by rw [eq, List.cons_append], some⟩
  | plain c rest none ih =>
      rw [expandWhere_kept fun sign => none ⟨sign.1, sign.2.2⟩,
        expandWhere_kept fun sign => none ⟨sign.1, sign.2.2⟩]
      congr 1
      apply ih
      rintro front after ⟨rfl, some⟩
      simpa using agree (c :: front) after ⟨rfl, some⟩

theorem Alike.of_live {ref : Reference} {after : List Char}
    (same : Alike live other before ('$' :: (ref.written ++ after))) (hl : live before = true)
    (ho : other before = true) (hr : reference? (ref.written ++ after) = some ref) :
    Alike live other (before ++ '$' :: ref.written) after := by
  intro lookup
  have both := same lookup
  rw [expandWhere_live hl hr, expandWhere_live ho hr] at both
  exact List.append_cancel_left both

theorem Alike.of_kept {c : Char} {rest : List Char} (same : Alike live other before (c :: rest))
    (hl : ¬(c = '$' ∧ live before = true ∧ (reference? rest).isSome))
    (ho : ¬(c = '$' ∧ other before = true ∧ (reference? rest).isSome)) :
    Alike live other (before ++ [c]) rest := by
  intro lookup
  have both := same lookup
  rw [expandWhere_kept hl, expandWhere_kept ho] at both
  exact List.tail_eq_of_cons_eq both

/-- What is looked up shows at once whether the first reference is live. -/
theorem head_expandWhere {ref : Reference} {after : List Char}
    (hr : reference? (ref.written ++ after) = some ref) :
    (expandWhere live (fun _ => some "#") before ('$' :: (ref.written ++ after))).head? =
      some (if live before then '#' else '$') := by
  by_cases hl : live before = true
  · rw [expandWhere_live hl hr, if_pos hl]
    simp [Piece.value]
  · rw [expandWhere_kept fun sign => hl sign.2.1, if_neg hl]
    rfl

end

theorem NamesOnly.of_suffix {text rest : List Char} (h : NamesOnly text) (hs : rest <:+ text) :
    NamesOnly rest := by
  intro later hl
  rw [List.mem_tails] at hl
  exact h later ((List.mem_tails _ _).mpr (hl.trans hs))

theorem NamesOnly.written {rest : List Char} {ref : Reference} (names : NamesOnly ('$' :: rest))
    (h : reference? rest = some ref) : '$' ∉ ref.written := by
  have first := names ('$' :: rest) ((List.mem_tails _ _).mpr (List.suffix_refl _))
  unfold reference? at h
  split at h
  · next inside =>
      split at h
      · next c name after hc =>
          cases h
          intro mem
          have inner : '$' ∈ c :: name := by simpa using mem
          simp only [braced, hc] at first
          exact absurd (List.all_eq_true.mp first '$' inner) (by decide)
      · contradiction
  · split at h
    · contradiction
    · cases h
      intro mem
      exact absurd (mem_takeWhile_isNameChar mem) (by decide)

/-- A reference in a text is the one that it begins with, or stands later. -/
theorem Site.cons {c : Char} {text front after : List Char} (h : Site (c :: text) front after) :
    (front = [] ∧ c = '$' ∧ (reference? text).isSome) ∨
      ∃ later, front = c :: later ∧ Site text later after := by
  obtain ⟨eq, found⟩ := h
  cases front with
  | nil =>
      obtain ⟨rfl, rfl⟩ := List.cons.inj eq
      exact .inl ⟨rfl, rfl, found⟩
  | cons d later =>
      obtain ⟨rfl, rest⟩ := List.cons.inj eq
      exact .inr ⟨later, rfl, rest, found⟩

/-- No reference stands inside the text of another. -/
theorem Site.of_append {written after front rest : List Char}
    (h : Site (written ++ after) front rest) (plain : '$' ∉ written) :
    ∃ later, front = written ++ later ∧ Site after later rest := by
  obtain ⟨eq, found⟩ := h
  rcases List.append_eq_append_iff.mp eq with ⟨later, rfl, rfl⟩ | ⟨part, rfl, cut⟩
  · exact ⟨later, rfl, rfl, found⟩
  · cases part with
    | nil => exact ⟨[], by simp, cut.symm, found⟩
    | cons d part =>
        obtain ⟨rfl, -⟩ := List.cons.inj cut
        exact absurd (by simp) plain

/-- Judgements that expand a text alike agree at its references: the first at which they do not
shows in the text. -/
theorem Alike.agree {live other : List Char → Bool} {before text : List Char}
    (same : Alike live other before text) (names : NamesOnly text) {front after : List Char}
    (site : Site text front after) : live (before ++ front) = other (before ++ front) := by
  induction text using sites_induction generalizing before front with
  | nil =>
      have empty : [] = front ++ '$' :: after := site.1
      simp at empty
  | reference ref rest hr keptIh ih =>
      have here : live before = other before := by
        have heads := congrArg List.head? (same fun _ => some "#")
        rw [head_expandWhere hr, head_expandWhere hr] at heads
        revert heads
        cases live before <;> cases other before <;> decide
      rcases site.cons with ⟨rfl, -, -⟩ | ⟨front, rfl, inner⟩
      · rwa [List.append_nil]
      by_cases hl : live before = true
      · have later := same.of_live hl (here ▸ hl) hr
        obtain ⟨front, rfl, outer⟩ := inner.of_append (names.written hr)
        simpa using ih later (names.of_suffix ⟨'$' :: ref.written, rfl⟩) outer
      · have later := same.of_kept (fun sign => hl sign.2.1) fun sign => hl (here ▸ sign.2.1)
        simpa using keptIh later (names.of_suffix (List.suffix_cons _ _)) inner
  | plain c rest none ih =>
      have later := same.of_kept (fun sign => none ⟨sign.1, sign.2.2⟩)
        fun sign => none ⟨sign.1, sign.2.2⟩
      rcases site.cons with ⟨-, sign⟩ | ⟨front, rfl, inner⟩
      · exact absurd sign none
      · simpa using ih later (names.of_suffix (List.suffix_cons _ _)) inner

end LineShell

import LineShell.Comment
import LineShell.Words

/-!
The scan for comments beside the scan for words. Both keep which quotes are open and whether a
backslash waits; from a state in which these agree they agree after every character. So the part
of a line before its comment can be said with the scan for words alone.
-/
namespace LineShell

namespace Quoting

def Coherent (q : Quoting) : Prop :=
  q.single = true → q.double = false ∧ q.escaped = false

theorem coherent_step {q : Quoting} (h : q.Coherent) (c : Char) : (q.step c).Coherent := by
  unfold step
  split
  · intro hs
    exact ⟨(h hs).1, rfl⟩
  · next unescaped =>
      have pending : q.escaped = false := by simpa using unescaped
      split
      · next taken => exact fun hs => absurd hs taken.2
      · split
        · next quote => exact fun _ => ⟨by simpa using quote.2, pending⟩
        · split
          · next quote => exact fun hs => absurd hs quote.2
          · exact h

end Quoting

namespace Scanner

def quoting (s : Scanner) : Quoting :=
  { single := s.single, double := s.double, escaped := s.escaped }

@[simp] theorem quoting_push (s : Scanner) (c : Char) : (s.push c).quoting = s.quoting := rfl

@[simp] theorem quoting_flush (s : Scanner) : s.flush.quoting = s.quoting := by
  unfold flush
  split <;> rfl

theorem quoting_step {s : Scanner} (h : s.quoting.Coherent) (c : Char) :
    (s.step c).quoting = s.quoting.step c := by
  cases escaped : s.escaped with
  | true => simp [step, Quoting.step, quoting, push, escaped]
  | false =>
      cases single : s.single with
      | true =>
          have double : s.double = false := (h single).1
          by_cases tick : c = '\x27' <;>
            simp [step, Quoting.step, quoting, push, escaped, single, double, tick]
      | false =>
          by_cases backslash : c = '\\'
          · simp [step, Quoting.step, quoting, escaped, single, backslash]
          by_cases mark : c = '"'
          · cases double : s.double <;>
              simp [step, Quoting.step, quoting, escaped, single, double, mark]
          by_cases tick : c = '\x27'
          · cases double : s.double <;>
              simp [step, Quoting.step, quoting, push, escaped, single, double, tick]
          have passed : s.quoting.step c = s.quoting := by
            simp [Quoting.step, quoting, escaped, backslash, mark, tick]
          rw [passed]
          cases double : s.double with
          | true => simp [step, escaped, single, double, backslash, mark]
          | false =>
              by_cases blank : c = ' ' ∨ c = '\t' <;>
                simp [step, escaped, single, double, backslash, mark, tick, blank]

theorem coherent_step {s : Scanner} (h : s.quoting.Coherent) (c : Char) :
    (s.step c).quoting.Coherent := by
  rw [quoting_step h]
  exact Quoting.coherent_step h c

theorem quoting_scan {s : Scanner} (h : s.quoting.Coherent) (text : List Char) :
    (s.scan text).quoting = text.foldl Quoting.step s.quoting := by
  induction text generalizing s with
  | nil => rfl
  | cons c rest ih =>
      rw [scan_cons, ih (coherent_step h c), quoting_step h, List.foldl_cons]

end Scanner

/-- The text before its first number sign that the scan for words finds neither quoted nor
escaped; all of it if there is none. -/
def uncommented (s : Scanner) : List Char → List Char
  | [] => []
  | c :: rest => if c = '#' ∧ s.quoting.bare then [] else c :: uncommented (s.step c) rest

theorem uncommented_sign {s : Scanner} {c : Char} (h : c = '#' ∧ s.quoting.bare = true)
    (rest : List Char) : uncommented s (c :: rest) = [] := by
  rw [uncommented, if_pos h]

theorem uncommented_plain {s : Scanner} {c : Char} (h : ¬(c = '#' ∧ s.quoting.bare = true))
    (rest : List Char) : uncommented s (c :: rest) = c :: uncommented (s.step c) rest := by
  rw [uncommented, if_neg h]

theorem uncommented_begins (s : Scanner) (text : List Char) : uncommented s text <+: text := by
  induction text generalizing s with
  | nil => exact List.nil_prefix
  | cons c rest ih =>
      by_cases sign : c = '#' ∧ s.quoting.bare = true
      · rw [uncommented_sign sign]
        exact List.nil_prefix
      · rw [uncommented_plain sign]
        exact List.cons_prefix_cons.mpr ⟨rfl, ih _⟩

theorem uncommented_append (s : Scanner) (a b : List Char) (h : uncommented s a = a) :
    uncommented s (a ++ b) = a ++ uncommented (s.scan a) b := by
  induction a generalizing s with
  | nil => rfl
  | cons c rest ih =>
      by_cases sign : c = '#' ∧ s.quoting.bare = true
      · rw [uncommented_sign sign] at h
        contradiction
      · rw [uncommented_plain sign] at h
        rw [List.cons_append, uncommented_plain sign, ih _ (List.cons.inj h).2]
        rfl

theorem uncommented_append_of_ne (s : Scanner) (a b : List Char) (h : uncommented s a ≠ a) :
    uncommented s (a ++ b) = uncommented s a := by
  induction a generalizing s with
  | nil => contradiction
  | cons c rest ih =>
      rw [List.cons_append]
      by_cases sign : c = '#' ∧ s.quoting.bare = true
      · rw [uncommented_sign sign, uncommented_sign sign]
      · rw [uncommented_plain sign] at h
        rw [uncommented_plain sign, uncommented_plain sign, ih _ fun same => h (by rw [same])]

theorem uncommented_of_not_mem (s : Scanner) {text : List Char} (h : '#' ∉ text) :
    uncommented s text = text := by
  induction text generalizing s with
  | nil => rfl
  | cons c rest ih =>
      rw [List.mem_cons, not_or] at h
      rw [uncommented_plain fun sign => h.1 sign.1.symm, ih _ h.2]

/-- The two scans find the same comment. -/
theorem commentStart?_eq {s : Scanner} (h : s.quoting.Coherent) (passed : Nat)
    (text : List Char) :
    commentStart? s.quoting passed text =
      if uncommented s text = text then none
      else some (passed + (uncommented s text).length) := by
  induction text generalizing s passed with
  | nil => rfl
  | cons c rest ih =>
      rw [commentStart?]
      by_cases sign : c = '#' ∧ s.quoting.bare = true
      · rw [if_pos sign, uncommented_sign sign]
        rfl
      · rw [if_neg sign, uncommented_plain sign, ← Scanner.quoting_step h,
          ih (Scanner.coherent_step h c)]
        by_cases whole : uncommented (s.step c) rest = rest
        · rw [if_pos whole, if_pos (by rw [whole])]
        · rw [if_neg whole, if_neg fun same => whole (List.cons.inj same).2, List.length_cons,
            Nat.add_right_comm, Nat.add_assoc]

theorem stripComment_ofList (text : List Char) :
    stripComment (String.ofList text) = String.ofList
      (if uncommented {} text = text then text else Text.trimEnd (uncommented {} text)) := by
  have found := @commentStart?_eq {} nofun 0 text
  have taken := List.prefix_iff_eq_take.mp (uncommented_begins {} text)
  unfold stripComment
  rw [String.toList_ofList, show ({} : Quoting) = ({} : Scanner).quoting from rfl, found]
  by_cases whole : uncommented {} text = text
  · simp [whole]
  · simp only [whole, if_false, Nat.zero_add]
    rw [← taken]

end LineShell

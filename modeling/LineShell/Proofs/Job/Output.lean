import LineShell.Sink
import Mathlib.Data.List.Basic

/-!
Writing where there is little room. A port takes some of the bytes it is offered; bytes are offered
until all are taken, and a text is written piece by piece. If a port takes so many bytes in all,
then of any texts written through it exactly the front that fits arrives, however the helpings and
the pieces are cut, and writing fails just when something is lost.
-/
namespace LineShell
variable {τ : Type}

/-- Takes some of the bytes it is offered and says how many. -/
abbrev Port (τ : Type) := Bytes → τ → Except IoError Nat × τ

def Port.putAll (port : Port τ) : Bytes → τ → Except IoError Unit × τ
  | [], t => (.ok (), t)
  | byte :: rest, t =>
      match port (byte :: rest) t with
      | (.error e, t) => (.error e, t)
      | (.ok 0, t) => (.error (.other "failed to write whole buffer"), t)
      | (.ok (k + 1), t) => port.putAll (rest.drop k) t
termination_by bytes => bytes.length
decreasing_by
  rw [List.length_drop, List.length_cons]
  omega

def Writer.each (write : Writer τ) : List String → τ → Except IoError Unit × τ
  | [], t => (.ok (), t)
  | text :: rest, t =>
      match write text t with
      | (.ok _, t) => write.each rest t
      | (.error e, t) => (.error e, t)

def Port.writer (port : Port τ) (pieces : String → List String) : Writer τ := fun text =>
  Writer.each (fun piece => port.putAll (Bytes.ofString piece)) (pieces text)

/-- A port that takes `n` bytes in all, in helpings of any size, and nothing after them. What it
has taken is seen in its state. -/
structure Port.Limited (port : Port τ) (n : Nat) (taken : τ → Bytes) : Prop where
  takes : ∀ bytes t, bytes ≠ [] → (taken t).length < n →
    ∃ k next, port bytes t = (.ok (k + 1), next) ∧ (taken t).length + (k + 1) ≤ n ∧
      k + 1 ≤ bytes.length ∧ taken next = taken t ++ bytes.take (k + 1)
  refuses : ∀ bytes t, bytes ≠ [] → n ≤ (taken t).length →
    ∃ e next, port bytes t = (.error e, next) ∧ taken next = taken t

/-- The outcome of adding bytes where there is room for `n` in all: what fits is added, and it is a
success just when that is all of them. -/
structure Fills (n : Nat) (taken : τ → Bytes) (bytes : Bytes) (t : τ)
    (out : Except IoError Unit × τ) : Prop where
  added : taken out.2 = (taken t ++ bytes).take n
  ok_iff : out.1 = .ok () ↔ (taken t ++ bytes).length ≤ n

namespace Fills
variable {n : Nat} {taken : τ → Bytes} {bytes : Bytes} {t : τ}

theorem nothing (room : (taken t).length ≤ n) : Fills n taken [] t (.ok (), t) :=
  ⟨by simp [List.take_of_length_le room], by simpa using room⟩

theorem room {out : Except IoError Unit × τ} (h : Fills n taken bytes t out) :
    (taken out.2).length ≤ n := by
  rw [h.added, List.length_take]
  exact Nat.min_le_left _ _

/-- What is added after a success comes behind it. -/
theorem after {first : Bytes} {next : τ} (h : Fills n taken first t (.ok (), next))
    {out : Except IoError Unit × τ} (rest : Fills n taken bytes next out) :
    Fills n taken (first ++ bytes) t out := by
  have whole : taken next = taken t ++ first :=
    h.added.trans (List.take_of_length_le (h.ok_iff.mp rfl))
  refine ⟨?_, ?_⟩
  · rw [rest.added, whole, List.append_assoc]
  · rw [rest.ok_iff, whole, List.append_assoc]

/-- After a failure nothing more would fit. -/
theorem full {first : Bytes} {e : IoError} {next : τ} (h : Fills n taken first t (.error e, next))
    (bytes : Bytes) : Fills n taken (first ++ bytes) t (.error e, next) := by
  have beyond : n < (taken t ++ first).length := by
    rw [← Nat.not_le, ← h.ok_iff]
    nofun
  refine ⟨?_, iff_of_false nofun ?_⟩
  · rw [h.added, ← List.append_assoc, List.take_append_of_le_length (Nat.le_of_lt beyond)]
  · rw [← List.append_assoc, List.length_append]
    omega

end Fills

variable {n : Nat} {taken : τ → Bytes}

theorem Port.Limited.putAll {port : Port τ} (limited : port.Limited n taken) (bytes : Bytes) {t : τ}
    (room : (taken t).length ≤ n) : Fills n taken bytes t (port.putAll bytes t) := by
  induction hn : bytes.length using Nat.strongRecOn generalizing bytes t with
  | ind m ih =>
      subst hn
      cases bytes with
      | nil =>
          rw [Port.putAll]
          exact .nothing room
      | cons byte rest =>
          rw [Port.putAll]
          rcases Nat.lt_or_ge (taken t).length n with some | none
          · obtain ⟨k, next, took, fits, whole, added⟩ := limited.takes (byte :: rest) t nofun some
            rw [took]
            have helping : Fills n taken ((byte :: rest).take (k + 1)) t (.ok (), next) := by
              have length : (taken t ++ (byte :: rest).take (k + 1)).length ≤ n := by
                rw [List.length_append, List.length_take]
                omega
              exact ⟨added.trans (List.take_of_length_le length).symm, iff_of_true rfl length⟩
            have left := ih (rest.drop k).length (by
              rw [List.length_drop, List.length_cons]
              omega) (rest.drop k) helping.room rfl
            have all := helping.after left
            rwa [List.take_succ_cons, List.cons_append, List.take_append_drop] at all
          · obtain ⟨e, next, refused, same⟩ := limited.refuses (byte :: rest) t nofun none
            rw [refused]
            have level : (taken t).length = n := Nat.le_antisymm room none
            refine ⟨?_, iff_of_false nofun ?_⟩
            · rw [same, ← level, List.take_left]
            · rw [List.length_append, List.length_cons]
              omega

/-- Texts whose writing fills what room there is, one after another. -/
theorem Writer.fills_each {write : Writer τ}
    (fills : ∀ text t, (taken t).length ≤ n →
      Fills n taken (Bytes.ofString text) t (write text t))
    (texts : List String) {t : τ} (room : (taken t).length ≤ n) :
    Fills n taken (texts.flatMap Bytes.ofString) t (write.each texts t) := by
  induction texts generalizing t with
  | nil => exact .nothing room
  | cons text rest ih =>
      have first := fills text t room
      rw [Writer.each, List.flatMap_cons]
      generalize write text t = out at first ⊢
      obtain ⟨e | _, next⟩ := out
      · exact first.full _
      · exact first.after (ih first.room)

theorem Bytes.ofString_join (texts : List String) :
    Bytes.ofString (String.join texts) = texts.flatMap Bytes.ofString := by
  induction texts with
  | nil => rfl
  | cons text rest ih => rw [String.join_cons, Bytes.ofString_append, ih, List.flatMap_cons]

theorem Port.Limited.writer {port : Port τ} (limited : port.Limited n taken)
    {pieces : String → List String} (whole : ∀ text, String.join (pieces text) = text)
    (text : String) {t : τ} (room : (taken t).length ≤ n) :
    Fills n taken (Bytes.ofString text) t (port.writer pieces text t) := by
  have written : Fills n taken ((pieces text).flatMap Bytes.ofString) t
      (port.writer pieces text t) :=
    Writer.fills_each (fun piece t room => limited.putAll (Bytes.ofString piece) room)
      (pieces text) room
  rwa [← Bytes.ofString_join, whole] at written

end LineShell

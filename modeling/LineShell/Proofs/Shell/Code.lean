import LineShell.Host
import LineShell.ShellError
import Mathlib.Data.Nat.Bitwise

/-!
Codes of statuses. The status of a process that has ended tells its code; what a failed line leaves
behind has the code of the failure, which a table gives for each kind. No failure has the code of
success.
-/
namespace LineShell
namespace WaitStatus

theorem shellCode_eq (s : WaitStatus) :
    s.shellCode =
      if s.raw.toNat % 128 = 0 then s.raw.toNat / 256 % 256
      else if s.raw.toNat % 128 = 127 then 1
      else 128 + s.raw.toNat % 128 := by
  have low : (s.raw &&& 0x7F).toNat = s.raw.toNat % 128 := by
    rw [UInt32.toNat_and]
    exact Nat.and_two_pow_sub_one_eq_mod _ 7
  have second : ((s.raw >>> 8) &&& 0xFF).toNat = s.raw.toNat / 256 % 256 := by
    rw [UInt32.toNat_and, UInt32.toNat_shiftRight, Nat.shiftRight_eq_div_pow]
    exact Nat.and_two_pow_sub_one_eq_mod _ 8
  have exits : s.exitCode? =
      if s.raw.toNat % 128 = 0 then some (s.raw.toNat / 256 % 256) else none := by
    rw [← low, ← second]
    rfl
  have signals : s.signal? =
      if s.raw.toNat % 128 = 0 ∨ s.raw.toNat % 128 = 127 then none
      else some (s.raw.toNat % 128) := by
    rw [← low]
    rfl
  rw [shellCode, exits, signals]
  by_cases zero : s.raw.toNat % 128 = 0
  · simp [zero]
  · by_cases last : s.raw.toNat % 128 = 127 <;> simp [zero, last]

theorem isSuccess_iff (s : WaitStatus) : s.isSuccess = true ↔ s.raw.toNat = 0 := by
  rw [isSuccess, beq_iff_eq, ← UInt32.toNat_inj]
  rfl

theorem toNat_ofCode (code : Int32) :
    (ofCode code).raw.toNat = code.toUInt32.toNat * 256 % UInt32.size := by
  rw [ofCode, UInt32.toNat_shiftLeft, Nat.shiftLeft_eq]
  rfl

/-- The status that a process leaves when it has ended, with its code: the number it exits with, or
128 and the signal that killed it, with or without a core dump. -/
inductive Ended : WaitStatus → Nat → Prop
  | exited {code : Nat} : code < 256 → Ended (ofCode (Int32.ofNat code)) code
  | killed {signal : Nat} (dumped : Bool) : 0 < signal → signal < 127 →
      Ended ⟨UInt32.ofNat (signal + if dumped then 128 else 0)⟩ (128 + signal)

theorem toNat_ofCode_ofNat {code : Nat} (h : code < 256) :
    (ofCode (Int32.ofNat code)).raw.toNat = code * 256 := by
  have whole : (Int32.ofNat code).toUInt32.toNat = code := by
    show code % 2 ^ 32 = code
    omega
  rw [toNat_ofCode, whole]
  simp only [UInt32.size]
  omega

structure Faithful (s : WaitStatus) : Prop where
  success : s.isSuccess = true ↔ s.shellCode = 0
  le : s.shellCode ≤ 255

theorem shellCode_ofCode {code : Nat} (h : code < 256) :
    (ofCode (Int32.ofNat code)).shellCode = code := by
  rw [shellCode_eq, toNat_ofCode_ofNat h, if_pos (by omega)]
  omega

theorem faithful_ofCode {code : Nat} (h : code < 256) :
    (ofCode (Int32.ofNat code)).Faithful := by
  refine ⟨?_, by rw [shellCode_ofCode h]; omega⟩
  rw [isSuccess_iff, shellCode_ofCode h, toNat_ofCode_ofNat h]
  omega

theorem faithful_success : success.Faithful :=
  faithful_ofCode (show 0 < 256 by decide)

theorem shellCode_success : success.shellCode = 0 :=
  shellCode_ofCode (show 0 < 256 by decide)

theorem Ended.shellCode {s : WaitStatus} {code : Nat} (h : s.Ended code) : s.shellCode = code := by
  cases h with
  | exited small => exact shellCode_ofCode small
  | @killed signal dumped pos small =>
      have raw : (UInt32.ofNat (signal + if dumped then 128 else 0)).toNat =
          signal + if dumped then 128 else 0 := by
        apply UInt32.toNat_ofNat_of_lt'
        simp only [UInt32.size]
        split <;> omega
      have low : (signal + if dumped then 128 else 0) % 128 = signal := by
        split <;> omega
      rw [shellCode_eq]
      simp only [raw, low]
      rw [if_neg (by omega), if_neg (by omega)]

theorem Ended.le {s : WaitStatus} {code : Nat} (h : s.Ended code) : code ≤ 255 := by
  cases h <;> omega

theorem Ended.ne_zero {s : WaitStatus} {code : Nat} (h : s.Ended code)
    (failed : s.isSuccess = false) : code ≠ 0 := by
  rintro rfl
  generalize zero : 0 = code at h
  cases h with
  | exited small =>
      subst zero
      contradiction
  | killed => omega

end WaitStatus

/-- Waiting for a program gives the status of a process that has ended. -/
def Host.AwaitsEnds {σ : Type} (h : Host σ) : Prop :=
  ∀ program s status next, h.run program s = (.ok status, next) → ∃ code, status.Ended code

namespace ShellError

inductive Leaves : ShellError → Nat → Prop
  | line (e : LineError) : Leaves (.line e) 2
  | usage (e : UsageError) : Leaves (.usage e) 2
  | commandNotFound (name : String) : Leaves (.commandNotFound name) 127
  | programFailed (name : String) {status : WaitStatus} {code : Nat} : status.Ended code →
      status.isSuccess = false → Leaves (.programFailed name status) code
  | builtinFailed (message : String) {code : Nat} : 0 < code → code < 256 →
      Leaves (.builtinFailed message (Int32.ofNat code)) code
  | note (text : String) (cause : Option IoError) : Leaves (.note text cause) 1
  | io (e : IoError) : Leaves (.io e) 1
  | history (e : IoError) : Leaves (.history e) 1
  | notStarted (name : String) (cause : Option IoError) : Leaves (.notStarted name cause) 1
  | jobNotFound (id : JobId) : Leaves (.jobNotFound id) 1
  | redirectFailed (path : String) (stream : Stream) (cause : Option IoError) :
      Leaves (.redirectFailed path stream cause) 1

theorem Leaves.code {e : ShellError} {code : Nat} (h : e.Leaves code) : e.code = code := by
  cases h with
  | programFailed name ended failed =>
      have small := ended.le
      simp only [ShellError.code, ended.shellCode]
      omega
  | builtinFailed message pos small =>
      have whole : (Int32.ofNat code).toInt = code :=
        Int32.toInt_ofNat_of_lt (by omega)
      simp only [ShellError.code, whole]
      show ((code : Int) % 256).toNat = code
      omega
  | _ => rfl

theorem Leaves.pos {e : ShellError} {code : Nat} (h : e.Leaves code) : 0 < code := by
  cases h with
  | programFailed name ended failed => exact Nat.pos_of_ne_zero (ended.ne_zero failed)
  | builtinFailed message pos small => exact pos
  | _ => decide

theorem Leaves.lt {e : ShellError} {code : Nat} (h : e.Leaves code) : code < 256 := by
  cases h with
  | programFailed name ended failed => exact Nat.lt_succ_of_le ended.le
  | builtinFailed message pos small => exact small
  | _ => decide

/-- A failure leaves its code behind as a status, and this is not success. -/
theorem Leaves.status {e : ShellError} {code : Nat} (h : e.Leaves code) :
    e.status.shellCode = code ∧ e.status.Faithful ∧ e.status.isSuccess = false := by
  have small := h.lt
  rw [ShellError.status, h.code]
  have faithful := WaitStatus.faithful_ofCode small
  have code := WaitStatus.shellCode_ofCode small
  refine ⟨code, faithful, ?_⟩
  rw [← Bool.not_eq_true, faithful.success, code]
  exact Nat.pos_iff_ne_zero.mp h.pos

end ShellError
end LineShell

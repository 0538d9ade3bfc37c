import LineShell.Text.Numeral
import Mathlib.Data.List.Induction
import Mathlib.Data.Nat.Digits.Defs

/-!
What numbers in text mean. A numeral is a row of digits, the first of the highest place; a decimal
integer is a numeral that may have a sign in front. The decimal integers that fit in 64 bits are
read as their values, and no other text is read.
-/
namespace LineShell.Text

structure Numeral (digits : List Char) (n : Nat) : Prop where
  nonempty : digits ≠ []
  decimal : ∀ c ∈ digits, c.isDigit = true
  value : n = Nat.ofDigits 10 (digits.reverse.map digitValue)

inductive Decimal : List Char → Int → Prop
  | unsigned {digits : List Char} {n : Nat} : Numeral digits n → Decimal digits n
  | plus {digits : List Char} {n : Nat} : Numeral digits n → Decimal ('+' :: digits) n
  | minus {digits : List Char} {n : Nat} : Numeral digits n → Decimal ('-' :: digits) (-n)

/-- A decimal integer that fits in 64 bits, one of them for the sign. -/
def Decimal64 (text : String) (n : Int) : Prop :=
  Decimal text.toList n ∧ -2 ^ 63 ≤ n ∧ n < 2 ^ 63

theorem foldl_digits {digits : List Char} (decimal : ∀ c ∈ digits, c.isDigit = true) :
    digits.foldl (fun n c => 10 * n + (c.toNat - 48)) 0 =
      Nat.ofDigits 10 (digits.reverse.map digitValue) := by
  -- The fold takes its last step at the lowest place, where the sum begins.
  induction digits using List.reverseRecOn with
  | nil => rfl
  | append_singleton front c ih =>
      rw [List.forall_mem_append, List.forall_mem_singleton] at decimal
      rw [List.foldl_append, ih decimal.1, List.reverse_append, List.reverse_singleton,
        List.singleton_append, List.map_cons, Nat.ofDigits_cons, digitValue, if_pos decimal.2]
      exact Nat.add_comm _ _

theorem natural?_eq_some_iff {digits : List Char} {n : Nat} :
    natural? digits = some n ↔ Numeral digits n := by
  unfold natural?
  split
  · next bad =>
      rw [Bool.or_eq_true, List.isEmpty_iff, Bool.not_eq_true', List.all_eq_false] at bad
      refine ⟨nofun, fun ⟨nonempty, decimal, _⟩ => ?_⟩
      obtain empty | ⟨c, mem, other⟩ := bad
      · exact absurd empty nonempty
      · exact absurd (decimal c mem) other
  · next good =>
      simp only [Bool.or_eq_true, List.isEmpty_iff, Bool.not_eq_true', List.all_eq_false, not_or,
        not_exists, not_and, not_not] at good
      rw [Option.some_inj, foldl_digits good.2]
      exact ⟨fun same => ⟨good.1, good.2, same.symm⟩, fun numeral => numeral.value.symm⟩

theorem integer?_eq_some_iff {text : List Char} {n : Int} :
    integer? text = some n ↔ Decimal text n := by
  have signed {sign : Char} {digits : List Char} {n : Nat} (other : sign.isDigit = false)
      (numeral : Numeral (sign :: digits) n) : False := by
    have digit := numeral.decimal sign List.mem_cons_self
    rw [other] at digit
    contradiction
  constructor
  · intro read
    unfold integer? at read
    split at read
    all_goals
      obtain ⟨value, whole, rfl⟩ := Option.map_eq_some_iff.mp read
      obtain ⟨m, natural, same⟩ := Option.bind_eq_some_iff.mp whole
      rw [natural?_eq_some_iff] at natural
      cases same
    · exact .minus natural
    · exact .plus natural
    · exact .unsigned natural
  · intro decimal
    cases decimal with
    | plus numeral | minus numeral => rw [integer?, natural?_eq_some_iff.mpr numeral]; rfl
    | unsigned numeral =>
        unfold integer?
        split
        · exact (signed (by decide) numeral).elim
        · exact (signed (by decide) numeral).elim
        · rw [natural?_eq_some_iff.mpr numeral]
          rfl

theorem signed64?_eq_some_iff {text : String} {n : Int} :
    signed64? text = some n ↔ Decimal64 text n := by
  have least : Int64.minValue.toInt = -2 ^ 63 := by decide
  have greatest : Int64.maxValue.toInt = 2 ^ 63 - 1 := by decide
  rw [signed64?, Option.filter_eq_some_iff, integer?_eq_some_iff, Decimal64, Bool.and_eq_true,
    decide_eq_true_iff, decide_eq_true_iff, least, greatest, Int.le_sub_one_iff]

theorem signed64?_eq_none_iff {text : String} :
    signed64? text = none ↔ ∀ n, ¬Decimal64 text n := by
  simp only [Option.eq_none_iff_forall_ne_some, ne_eq, signed64?_eq_some_iff]

theorem numeral_toDigits (n : Nat) : Numeral (Nat.toDigits 10 n) n := by
  have decimal : ∀ c ∈ Nat.toDigits 10 n, c.isDigit = true :=
    fun _ => Nat.isDigit_of_mem_toDigits (by decide) (by decide)
  refine ⟨Nat.toDigits_ne_nil, decimal, ?_⟩
  rw [← foldl_digits decimal]
  exact (Nat.ofDigitChars_toDigits (by decide) (by decide)).symm

theorem decimal_toString (n : Int) : Decimal (toString n).toList n := by
  cases n with
  | ofNat m =>
      have text : (toString (Int.ofNat m)).toList = Nat.toDigits 10 m := Nat.toList_repr
      rw [text]
      exact .unsigned (numeral_toDigits m)
  | negSucc m =>
      have text : (toString (Int.negSucc m)).toList = '-' :: Nat.toDigits 10 (m + 1) := by
        rw [← Nat.toList_repr]
        exact String.toList_append
      rw [text]
      exact .minus (numeral_toDigits (m + 1))

end LineShell.Text

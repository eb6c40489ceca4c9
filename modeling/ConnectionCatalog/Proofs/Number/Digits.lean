import Mathlib.Algebra.Group.Nat.Defs
import ConnectionCatalog.Number.Spelled

/-! # Proofs.Number.Digits — whole numbers in decimal digits

The digits of a number have its value, and only zero is written with a zero in front.
-/

namespace ConnectionCatalog

theorem digitsOf_eq (n : Nat) : digitsOf n = Nat.toDigits 10 n := Nat.toList_repr

theorem digitsOf_ne_nil (n : Nat) : digitsOf n ≠ [] := by
  rw [digitsOf_eq]
  exact Nat.toDigits_ne_nil

theorem isDigit_of_mem_digitsOf {n : Nat} {c : Char} (h : c ∈ digitsOf n) : c.isDigit = true := by
  rw [digitsOf_eq] at h
  exact Nat.isDigit_of_mem_toDigits (by decide) (by decide) h

/-- The digits of a number have its value. -/
theorem digitsValue_digitsOf (n : Nat) : digitsValue (digitsOf n) = n := by
  have h := Nat.ofDigitChars_ten_toDigits (n := n)
  rwa [Nat.ofDigitChars_eq_foldl, ← digitsOf_eq] at h

/-- Only zero has a zero in front. -/
theorem digitsOf_eq_zero_cons {n : Nat} {ds : List Char} (h : digitsOf n = '0' :: ds) :
    n = 0 ∧ ds = [] := by
  rw [digitsOf_eq] at h
  induction n using Nat.strongRecOn generalizing ds with
  | ind n ih =>
    by_cases hn : n < 10
    · rw [Nat.toDigits_of_lt_base hn] at h
      obtain ⟨hdigit, rfl⟩ := List.cons.inj h
      have hzero := Nat.toNat_digitChar_sub_48_of_lt_ten hn
      rw [hdigit] at hzero
      exact ⟨hzero.symm, rfl⟩
    · -- the digits of a larger number start like those of its tenth, which is not zero
      rw [Nat.toDigits_of_base_le (by decide) (by omega)] at h
      obtain ⟨front, hfront⟩ : ∃ front, Nat.toDigits 10 (n / 10) = '0' :: front := by
        cases hfront : Nat.toDigits 10 (n / 10) with
        | nil => exact absurd hfront Nat.toDigits_ne_nil
        | cons c front =>
          rw [hfront, List.cons_append] at h
          rw [(List.cons.inj h).1]
          exact ⟨front, rfl⟩
      have htenth := (ih (n / 10) (by omega) hfront).1
      omega

/-- A whole number is written as its digits, behind a minus sign if it is negative. -/
theorem toList_toString_int (n : Int) :
    (toString n).toList = (if n < 0 then ['-'] else []) ++ digitsOf n.natAbs := by
  cases n with
  | ofNat m => rfl
  | negSucc m =>
    have hnegative : Int.negSucc m < 0 := Int.negSucc_lt_zero m
    have htext : toString (Int.negSucc m) = "-" ++ Nat.repr (m + 1) := rfl
    rw [if_pos hnegative, htext, String.toList_append]
    rfl

end ConnectionCatalog

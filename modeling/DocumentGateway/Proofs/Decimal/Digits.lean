import DocumentGateway.Decimal.Reading
import DocumentGateway.Text.DecimalDigit
import Mathlib.Algebra.Group.Int.Defs
import Mathlib.Algebra.Group.Nat.Defs

/-!
# Decimal digits of natural numbers

The digits that a natural number is written with are read back as the number. There is
always one, and the first of them is zero only for zero itself.
-/
namespace DocumentGateway.Decimal

/-- The digits of this library are the ASCII digits. -/
theorem isDigit_eq (c : Char) : isDigit c = c.isDigit := by
  have range : ('0' ≤ c ∧ c ≤ '9') ↔ c.isDigit = true := by
    simp [Char.isDigit, Char.le_def]
  unfold isDigit digit?
  rw [Bool.eq_iff_iff, ← range]
  by_cases inRange : '0' ≤ c ∧ c ≤ '9' <;> simp [inRange]

/-- The decimal numeral of a natural number is made up of digits only. -/
theorem isDigit_of_mem_toDigits {n : Nat} {c : Char} (member : c ∈ Nat.toDigits 10 n) :
    isDigit c = true :=
  (isDigit_eq c).trans (Nat.isDigit_of_mem_toDigits (by decide) (by decide) member)

/-- One more digit shifts the number before it by a place. -/
theorem natural_append_digit (digits : List Char) (c : Char) :
    natural (digits ++ [c]) = natural digits * 10 + (digit? c).getD 0 := by
  simp [natural]

/-- The digit that is written for a value is read as this value. -/
theorem digit?_digitChar {n : Nat} (small : n < 10) : digit? n.digitChar = some n := by
  revert n
  decide

/-- The digits of a number are read back as the number. -/
theorem natural_toDigits (n : Nat) : natural (Nat.toDigits 10 n) = n := by
  induction n using Nat.strongRecOn with
  | ind n inductionHypothesis =>
    rcases Nat.lt_or_ge n 10 with small | large
    · rw [Nat.toDigits_of_lt_base small]
      simp [natural, digit?_digitChar small]
    · have last : n % 10 < 10 := Nat.mod_lt n (by decide)
      rw [Nat.toDigits_of_base_le (by decide) large, natural_append_digit,
        inductionHypothesis (n / 10) (by omega), digit?_digitChar last, Option.getD_some]
      omega

/-- Different numbers have different digits. -/
theorem toDigits_injective {m n : Nat} (same : Nat.toDigits 10 m = Nat.toDigits 10 n) : m = n := by
  rw [← natural_toDigits m, same, natural_toDigits]

/-- The digit of a positive value is not zero, so it may lead a numeral. -/
theorem first_digitChar {n : Nat} (small : n < 10) (positive : 0 < n) :
    [n.digitChar].head? ≠ some '0' := by
  revert n
  decide

/-- The first digit of a positive number is not zero. -/
theorem head_toDigits {n : Nat} (positive : 0 < n) : (Nat.toDigits 10 n).head? ≠ some '0' := by
  induction n using Nat.strongRecOn with
  | ind n inductionHypothesis =>
    rcases Nat.lt_or_ge n 10 with small | large
    · rw [Nat.toDigits_of_lt_base small]
      exact first_digitChar small positive
    · have started : (Nat.toDigits 10 (n / 10)).head?.isSome = true := by simp
      rw [Nat.toDigits_of_base_le (by decide) large, List.head?_append,
        Option.or_of_isSome started]
      exact inductionHypothesis (n / 10) (by omega) (by omega)

/-- A number with some digits is at least the power of ten of its first place. -/
theorem pow_le_of_length {n : Nat} (positive : 0 < n) :
    10 ^ ((Nat.toDigits 10 n).length - 1) ≤ n := by
  rcases Nat.lt_or_ge (Nat.toDigits 10 n).length 2 with short | long
  · have single : (Nat.toDigits 10 n).length - 1 = 0 := by omega
    rw [single]
    exact positive
  · refine Nat.le_of_not_lt fun below => ?_
    have fits : (Nat.toDigits 10 n).length ≤ (Nat.toDigits 10 n).length - 1 :=
      (Nat.length_toDigits_le_iff (by decide) (by omega)).mpr below
    omega

end DocumentGateway.Decimal

namespace DocumentGateway.Text

/-- The ranges of decimal digits are listed in order and apart from each other. -/
theorem decimalDigits_eq : decimalDigits =
    ⟨(decimalDigitRanges.map fun pair => CharRange.mk pair.1 pair.2).toArray⟩ := by
  rw [decimalDigits, CharSet.ofPairs, CharSet.ofRanges, List.mergeSort_of_pairwise (by decide)]
  rfl

/-- The digits that numbers are written with are decimal digits. -/
theorem isDecimalDigit_digitChar {n : Nat} (small : n < 10) :
    isDecimalDigit n.digitChar = true := by
  rw [isDecimalDigit, decimalDigits_eq]
  revert n
  decide

end DocumentGateway.Text

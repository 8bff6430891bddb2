import DocumentGateway.Decimal.Shortest
import DocumentGateway.Proofs.Decimal.Digits
import Mathlib.Algebra.GroupWithZero.Nat

/-!
# The digits of the shortest decimal

The shortest decimal of a positive number is positive. A grid point that is found lies in
the interval around the number, which zero does not, and the search never runs below the
leading digit of the number. So there are digits to show, and the first of them is not
zero.
-/
namespace DocumentGateway.Decimal

/-- Zero is below an interval with a positive bound. -/
theorem Interval.holds_zero {range : Interval} (positive : 0 < range.lower) (scale : Int) :
    range.holds 0 scale = false := by
  have notZero : range.lower ≠ 0 := Nat.ne_of_gt positive
  unfold Interval.holds
  split <;> split <;> split <;> simp [notZero]

/-- A grid point in an interval with a positive bound is positive. -/
theorem gridPoint?_pos {range : Interval} (positive : 0 < range.lower) {value : Quotient}
    {scale : Int} {point : Nat} (found : gridPoint? range value scale = some point) :
    0 < point := by
  have notZero : ∀ below, range.holds below scale = true → 0 < below := by
    intro below holds
    refine Nat.pos_of_ne_zero fun zero => ?_
    rw [zero, Interval.holds_zero positive] at holds
    cases holds
  unfold gridPoint? at found
  simp only at found
  split at found
  · rename_i inside above
    have point : (if nearerAbove value scale (gridBelow value scale) then
        gridBelow value scale + 1 else gridBelow value scale) = point := Option.some.inj found
    have := notZero _ inside
    split at point <;> omega
  · rename_i inside above
    obtain rfl := Option.some.inj found
    exact notZero _ inside
  · obtain rfl := Option.some.inj found
    omega
  · cases found

/-- The search ends at a positive point if there is one at its end. The number of grids
still to be tried and of those passed stay the same together. -/
theorem firstGrid_pos {range : Interval} (positive : 0 < range.lower) {value : Quotient}
    {place : Int} {last : Nat} (reached : 0 < gridBelow value (place - last)) :
    ∀ fuel digits, fuel + digits = last →
      0 < (firstGrid range value place fuel digits).digits := by
  intro fuel
  induction fuel with
  | zero =>
    intro digits all
    obtain rfl : digits = last := by omega
    exact reached
  | succ fuel inductionHypothesis =>
    intro digits all
    unfold firstGrid
    split
    · rename_i point found
      exact gridPoint?_pos positive found
    · exact inductionHypothesis (digits + 1) (by omega)

/-- The zeros after the point are counted up to the leading digit, if it comes early
enough. -/
theorem leadingZeros_reach {denominator : Nat} :
    ∀ fuel numerator, denominator ≤ numerator * 10 ^ fuel →
      denominator ≤ numerator * 10 ^ (leadingZeros numerator denominator fuel + 1) := by
  intro fuel
  induction fuel with
  | zero =>
    intro numerator enough
    rw [leadingZeros]
    omega
  | succ fuel inductionHypothesis =>
    intro numerator enough
    rw [leadingZeros]
    split
    · rename_i reached
      simpa using reached
    · have shifted : denominator ≤ numerator * 10 * 10 ^ fuel := by
        rw [Nat.mul_assoc, ← Nat.pow_succ']
        exact enough
      have reached := inductionHypothesis (numerator * 10) shifted
      rw [Nat.mul_assoc, ← Nat.pow_succ'] at reached
      exact reached

/-- At the leading place of a quotient and below it, the grid has a positive point that is
not above the quotient. -/
theorem gridBelow_pos {value : Quotient} (denominator : 0 < value.denominator)
    (enough : value.denominator ≤ value.numerator * 10 ^ 400) (digits : Nat) :
    0 < gridBelow value (leadingPlace value - digits) := by
  unfold gridBelow
  by_cases large : value.denominator ≤ value.numerator
  · have quotient : 0 < value.numerator / value.denominator := Nat.div_pos large denominator
    have shown := pow_le_of_length quotient
    have started : 0 < (Nat.toDigits 10 (value.numerator / value.denominator)).length :=
      Nat.length_toDigits_pos
    have place : leadingPlace value =
        ((Nat.toDigits 10 (value.numerator / value.denominator)).length - 1 : Nat) := by
      rw [leadingPlace, if_pos large]
      omega
    rw [place]
    split
    · rename_i nonneg
      refine Nat.div_pos ?_ (Nat.mul_pos denominator (Nat.pow_pos (by decide)))
      have lower : (((Nat.toDigits 10 (value.numerator / value.denominator)).length - 1 : Nat) -
          (digits : Int)).toNat ≤
          (Nat.toDigits 10 (value.numerator / value.denominator)).length - 1 := by omega
      calc value.denominator * 10 ^ (((Nat.toDigits 10
              (value.numerator / value.denominator)).length - 1 : Nat) - (digits : Int)).toNat
          ≤ value.denominator * 10 ^ ((Nat.toDigits 10
              (value.numerator / value.denominator)).length - 1) :=
            Nat.mul_le_mul_left _ (Nat.pow_le_pow_right (by decide) lower)
        _ ≤ value.denominator * (value.numerator / value.denominator) :=
            Nat.mul_le_mul_left _ shown
        _ ≤ value.numerator := Nat.mul_div_le _ _
    · exact Nat.div_pos (Nat.le_trans large (Nat.le_mul_of_pos_right _ (Nat.pow_pos (by decide))))
        denominator
  · have reached := leadingZeros_reach 400 value.numerator enough
    have place : leadingPlace value =
        -(leadingZeros value.numerator value.denominator 400 : Int) - 1 := by
      rw [leadingPlace, if_neg large]
    rw [place, if_neg (by omega)]
    refine Nat.div_pos (Nat.le_trans reached ?_) denominator
    exact Nat.mul_le_mul_left _ (Nat.pow_le_pow_right (by decide) (by omega))

/-! ## The shortest decimal of a number -/

/-- A number that is not zero has a positive significand. -/
theorem significand_pos {x : Float} (nonzero : magnitude x ≠ 0) : 0 < significand x := by
  unfold significand
  split
  · exact Nat.pos_of_ne_zero nonzero
  · exact Nat.lt_of_lt_of_le (Nat.pow_pos (by decide) : 0 < Nat.pow 2 52) (Nat.le_add_right _ _)

/-- The least exponent is that of the smallest positive number. -/
theorem exponent_ge (x : Float) : -1074 ≤ exponent x := by
  unfold exponent
  split <;> omega

/-- Each decimal place is worth at least three binary ones. -/
theorem two_pow_le_ten_pow (places : Nat) : 2 ^ (3 * places) ≤ 10 ^ places := by
  rw [Nat.pow_mul]
  exact Nat.pow_le_pow_left (by decide) places

/-- A positive number has its leading digit within any places that its exponent does not
pass: a decimal place is worth more than three binary ones. -/
theorem scaled_bounds {middle : Nat} {power : Int} (places : Nat) (positive : 0 < middle)
    (least : -(3 * places : Nat) ≤ power) :
    0 < (Quotient.scaled middle power).denominator ∧
      (Quotient.scaled middle power).denominator ≤
        (Quotient.scaled middle power).numerator * 10 ^ places := by
  unfold Quotient.scaled
  split
  · have numerator : 0 < middle * 2 ^ power.toNat :=
      Nat.mul_pos positive (Nat.pow_pos (by decide))
    exact ⟨Nat.one_pos, Nat.mul_pos numerator (Nat.pow_pos (by decide))⟩
  · refine ⟨Nat.pow_pos (by decide), ?_⟩
    calc 2 ^ (-power).toNat ≤ 2 ^ (3 * places) := Nat.pow_le_pow_right (by decide) (by omega)
      _ ≤ 10 ^ places := two_pow_le_ten_pow places
      _ ≤ middle * 10 ^ places := Nat.le_mul_of_pos_left _ positive

/-- The shortest decimal of a number that is not zero is not zero. -/
theorem shortest_pos {x : Float} (nonzero : magnitude x ≠ 0) : 0 < (shortest x).digits := by
  have positive := significand_pos nonzero
  have smallest := exponent_ge x
  have lower : 0 < (interval x).lower := by
    simp only [interval]
    split <;> omega
  have middle : (interval x).middle = 4 * significand x := rfl
  have power : (interval x).power = exponent x - 2 := rfl
  refine firstGrid_pos lower ?_ 17 0 rfl
  rw [middle, power]
  obtain ⟨denominator, enough⟩ :=
    scaled_bounds 400 (Nat.mul_pos (by decide : 0 < 4) positive)
      (show -(3 * 400 : Nat) ≤ exponent x - 2 by omega)
  exact gridBelow_pos denominator enough 17

/-- The digits that are shown of a positive decimal: digits, at least one, and the first is
not zero. -/
theorem digitsAndPlace_spec {number : Scaled} (positive : 0 < number.digits) :
    (digitsAndPlace number).1 ≠ [] ∧ (∀ c ∈ (digitsAndPlace number).1, isDigit c = true) ∧
      (digitsAndPlace number).1.head? ≠ some '0' := by
  obtain ⟨first, others, same⟩ :=
    List.exists_cons_of_ne_nil (Nat.toDigits_ne_nil (b := 10) (n := number.digits))
  have notZero : first ≠ '0' := by
    have head := head_toDigits positive
    rw [same] at head
    exact fun zero => head (congrArg some zero)
  -- Only zeros at the end are dropped, so the first digit stays.
  have shown : (digitsAndPlace number).1 = first :: (others.reverse.dropWhile (· = '0')).reverse := by
    simp only [digitsAndPlace, same, List.reverse_cons]
    by_cases allZero : others.reverse.dropWhile (· = '0') = []
    · rw [List.dropWhile_append, allZero]
      simp [notZero]
    · rw [List.dropWhile_append]
      simp [allZero]
  refine ⟨by simp [shown], fun c member => ?_, by simp [shown, notZero]⟩
  have written : c ∈ Nat.toDigits 10 number.digits := by
    rw [shown] at member
    rw [same]
    rcases List.mem_cons.mp member with rfl | later
    · exact List.mem_cons_self
    · have kept := (List.dropWhile_sublist _).mem (List.mem_reverse.mp later)
      exact List.mem_cons_of_mem _ (List.mem_reverse.mp kept)
  exact isDigit_of_mem_toDigits written

end DocumentGateway.Decimal

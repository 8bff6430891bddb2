import DocumentGateway.Json.Basic
import Mathlib

/-!
# Whole numbers as floating-point numbers

A floating-point number that stands for an integer of at most `2 ^ 53` is shown as this
integer. Nothing is lost by it: the integer, made a floating-point number again, stands
at the same place on the real line. The bits on both sides are computed. On one side
they come from the operations of the floating-point model, which round a whole number
below `2 ^ 53` without loss, and on the other from the parts that tell that the number
is whole.
-/
namespace DocumentGateway.Decimal

open Float.Model
open Float.Model.UnpackedFloat (packComponents Sign roundWithAccuracy
  shiftToTargetExponent ExtendedMantissa)

/-! ## Words of normal numbers -/

/-- The number of the sign bit. -/
def signBit : Sign → Nat
  | .negative => 1
  | .positive => 0

/-- The word of a sign, an exponent field and a fraction. -/
theorem toNat_packComponents (sign : Sign) (exponent : BitVec 11) (mantissa : BitVec 52) :
    (packComponents .binary64 sign exponent mantissa).toNat =
      signBit sign * 2 ^ 63 + exponent.toNat * 2 ^ 52 + mantissa.toNat := by
  have exponentBound := exponent.isLt
  have mantissaBound := mantissa.isLt
  have signValue : (Sign.toBitVec sign).toNat = signBit sign := by cases sign <;> rfl
  simp only [packComponents, BitVec.toNat_append, signValue]
  rw [← Nat.shiftLeft_add_eq_or_of_lt exponentBound, ← Nat.shiftLeft_add_eq_or_of_lt mantissaBound]
  simp only [Nat.shiftLeft_eq]
  ring

/-- A significand with its highest bit set, and an exponent in the range of normal numbers. -/
structure Normal (significand : Nat) (exponent : Int) : Prop where
  high : 2 ^ 52 ≤ significand
  bounded : significand < 2 ^ 53
  least : -1074 ≤ exponent
  greatest : exponent ≤ 971

namespace Normal

variable {significand : Nat} {exponent : Int}

/-- The significand of a normal number is positive, because its highest bit is set. -/
theorem pos (normal : Normal significand exponent) : 0 < significand :=
  Nat.lt_of_lt_of_le (by decide) normal.high

/-- The highest bit of a normal significand is the one of weight `2 ^ 52`. -/
theorem log2_eq (normal : Normal significand exponent) : significand.log2 = 52 := by
  have lower := (Nat.le_log2 normal.pos.ne').mpr normal.high
  have upper := (Nat.log2_lt normal.pos.ne').mpr normal.bounded
  omega

/-- The bits of a normal number. -/
theorem pack_eq (normal : Normal significand exponent) (sign : Sign) :
    UnpackedFloat.pack .binary64 (.finite sign significand exponent normal.pos) =
      packComponents .binary64 sign (BitVec.ofNat 11 (exponent + 1075).toNat)
        (BitVec.ofNat 52 significand) := by
  have least := normal.least
  have greatest := normal.greatest
  have biased : (exponent + (Format.exponentBias .binary64 : Int) + (52 : Nat)).toNat =
      (exponent + 1075).toNat := by
    simp only [Format.exponentBias]
    omega
  have finite : ¬ 2 ^ 11 ≤ (exponent + 1075).toNat + 1 := by omega
  simp only [UnpackedFloat.pack, normal.log2_eq, Format.mantissaBits, biased, finite, if_false,
    Nat.reduceAdd, if_true]

/-- A normal number in the form of a packed model. -/
theorem unpack_pack (normal : Normal significand exponent) (sign : Sign) :
    (Float.Model.pack (.finite sign significand exponent normal.pos)).unpack =
      .finite sign significand exponent normal.pos := by
  have high := normal.high
  have bounded := normal.bounded
  have least := normal.least
  have greatest := normal.greatest
  have field : (BitVec.ofNat 11 (exponent + 1075).toNat).toNat = (exponent + 1075).toNat := by
    rw [BitVec.toNat_ofNat, Nat.mod_eq_of_lt (by omega)]
  have notLargest : BitVec.ofNat 11 (exponent + 1075).toNat ≠ -1#11 := fun same => by
    have values := congrArg BitVec.toNat same
    rw [field] at values
    simp only [BitVec.neg_one_eq_allOnes, BitVec.toNat_allOnes] at values
    omega
  have notLeast : BitVec.ofNat 11 (exponent + 1075).toNat ≠ 0#11 := fun same => by
    have values := congrArg BitVec.toNat same
    rw [field] at values
    simp only [BitVec.toNat_zero] at values
    omega
  have wholeSignificand : (1#1 ++ BitVec.ofNat 52 significand).toNat = significand := by
    have fraction : (BitVec.ofNat 52 significand).toNat = significand - 2 ^ 52 := by
      rw [BitVec.toNat_ofNat]
      omega
    rw [BitVec.toNat_append, ← Nat.shiftLeft_add_eq_or_of_lt (BitVec.ofNat 52 significand).isLt,
      fraction]
    change 1 <<< 52 + (significand - 2 ^ 52) = significand
    omega
  simp only [Float.Model.unpack, Float.Model.pack, normal.pack_eq, UnpackedFloat.unpack,
    UnpackedFloat.unpackExponent_packComponents, UnpackedFloat.unpackMantissa_packComponents,
    UnpackedFloat.unpackSign_packComponents, UnpackedFloat.Sign.ofBitVec_toBitVec, notLargest,
    notLeast, if_false, field, wholeSignificand, Format.exponentBias]
  congr 1
  omega

/-- Shifting out zeros is exact. -/
theorem shiftRight_exact (kept places : Nat) :
    ((⟨kept * 2 ^ places, false, false⟩ : ExtendedMantissa) >>> places) = ⟨kept, false, false⟩ := by
  induction places generalizing kept with
  | zero => simp [HShiftRight.hShiftRight, Nat.repeat]
  | succ places inductionHypothesis =>
    have doubled : kept * 2 ^ (places + 1) = (2 * kept) * 2 ^ places := by ring
    rw [doubled]
    change ((⟨(2 * kept) * 2 ^ places, false, false⟩ : ExtendedMantissa) >>> places).shiftRightOne = _
    rw [inductionHypothesis (2 * kept)]
    simp [ExtendedMantissa.shiftRightOne]

/-- A significand with zeros behind its fifty-three bits is rounded by shifting them out. -/
theorem round_zeros (normal : Normal significand exponent) (sign : Sign) (places : Nat) :
    roundWithAccuracy .binary64 sign (significand * 2 ^ places) (exponent - places) .exact =
      .finite sign significand exponent normal.pos := by
  have least := normal.least
  have shifted : ∀ zeros : Nat,
      shiftToTargetExponent .binary64 (significand * 2 ^ zeros) (exponent - zeros) .exact =
        (⟨significand, false, false⟩, exponent) := by
    intro zeros
    have size : (significand * 2 ^ zeros).log2 = 52 + zeros := by
      refine (Nat.log2_eq_iff (Nat.mul_pos normal.pos (Nat.two_pow_pos zeros)).ne').mpr ⟨?_, ?_⟩
      · rw [pow_add]
        exact Nat.mul_le_mul_right _ normal.high
      · rw [show 52 + zeros + 1 = 53 + zeros by omega, pow_add]
        exact Nat.mul_lt_mul_of_pos_right normal.bounded (Nat.two_pow_pos zeros)
    have target : Format.targetExponent .binary64
        (totalExponent (significand * 2 ^ zeros) (exponent - zeros)) = exponent := by
      simp only [Format.targetExponent, totalExponent, size, Format.mantissaBits, Format.minExponent]
      omega
    have amount : (exponent - (exponent - zeros)).toNat = zeros := by omega
    simp only [shiftToTargetExponent, target, UnpackedFloat.shiftToExponent, amount,
      ExtendedMantissa.ofMantissaAndAccuracy, shiftRight_exact, Prod.mk.injEq, true_and]
    omega
  have unshifted := shifted 0
  simp only [pow_zero, mul_one, Nat.cast_zero, sub_zero] at unshifted
  simp only [roundWithAccuracy, shifted places, ExtendedMantissa.roundedMantissa,
    ExtendedMantissa.accuracy, UnpackedFloat.Accuracy.roundToNearestEven, unshifted,
    normal.pos.ne', dite_false]

end Normal

/-! ## Whole numbers -/

variable {n : Nat}

/-- A positive number below `2 ^ 53`, with zeros put behind it, fills a significand. -/
theorem normal_of_small (positive : 0 < n) (small : n < 2 ^ 53) :
    Normal (n * 2 ^ (52 - n.log2)) (-(52 - n.log2 : Nat)) := by
  have size : n.log2 < 53 := (Nat.log2_lt positive.ne').mpr small
  have lower : 2 ^ n.log2 ≤ n := Nat.log2_self_le positive.ne'
  have upper : n < 2 ^ (n.log2 + 1) := Nat.lt_log2_self
  refine ⟨?_, ?_, by omega, by omega⟩
  · calc 2 ^ 52 = 2 ^ n.log2 * 2 ^ (52 - n.log2) := by rw [← pow_add]; congr 1; omega
      _ ≤ n * 2 ^ (52 - n.log2) := Nat.mul_le_mul_right _ lower
  · calc n * 2 ^ (52 - n.log2) < 2 ^ (n.log2 + 1) * 2 ^ (52 - n.log2) :=
          Nat.mul_lt_mul_of_pos_right upper (Nat.two_pow_pos _)
      _ = 2 ^ 53 := by rw [← pow_add]; congr 1; omega

/-- The model of a positive number below `2 ^ 53`. -/
theorem ofNat_eq (positive : 0 < n) (small : n < 2 ^ 53) :
    Float.ofNat n = .ofModel (.pack (.finite .positive (n * 2 ^ (52 - n.log2))
      (-(52 - n.log2 : Nat)) (normal_of_small positive small).pos)) := by
  have normal := normal_of_small positive small
  have size : n.log2 < 53 := (Nat.log2_lt positive.ne').mpr small
  have rounded : UnpackedFloat.ofUInt64 .binary64 n.toUInt64 =
      .finite .positive (n * 2 ^ (52 - n.log2)) (-(52 - n.log2 : Nat)) normal.pos := by
    have whole : n.toUInt64.toNat = n := by
      simp only [Nat.toUInt64_eq, UInt64.toNat_ofNat']
      omega
    have target : Format.targetExponent .binary64 (totalExponent n 0) = -(52 - n.log2 : Nat) := by
      simp only [Format.targetExponent, totalExponent, Format.mantissaBits, Format.minExponent]
      omega
    have above : compare (n : Int) 0 = .gt := by
      simpa [compare_gt_iff_gt] using positive
    have lossless := normal.round_zeros .positive 0
    simp only [pow_zero, mul_one, Nat.cast_zero, sub_zero] at lossless
    simp only [UnpackedFloat.ofUInt64, UnpackedFloat.ofNat, UnpackedFloat.ofInt,
      UnpackedFloat.normalize, whole, above, UnpackedFloat.round, Int.toNat_natCast, target,
      UnpackedFloat.decreaseExponent, Nat.shiftLeft_eq, zero_sub, neg_neg, lossless]
  have one : (Float.ofBits 0x3FF0000000000000).toModel.unpack =
      .finite .positive (2 ^ 52) (-52) (by decide) := rfl
  have product := normal.round_zeros .positive 52
  have unfolded : Float.ofNat n = n.toUInt64.toFloat * Float.ofBits 0x3FF0000000000000 := by
    simp only [Float.ofNat, OfScientific.ofScientific, Float.ofScientific, small, Nat.zero_le,
      and_self, dite_true, Bool.false_eq_true, if_false]
    rfl
  rw [unfolded]
  change Float.ofModel (.pack (UnpackedFloat.mul .binary64
    (Float.Model.pack (UnpackedFloat.ofUInt64 .binary64 n.toUInt64)).unpack
    (Float.ofBits 0x3FF0000000000000).toModel.unpack)) = _
  rw [rounded, normal.unpack_pack, one]
  change Float.ofModel (.pack (roundWithAccuracy .binary64 .positive _ _ .exact)) = _
  exact congrArg (Float.ofModel ∘ Float.Model.pack) product

/-- The bits of a positive number below `2 ^ 53`, and of its negation. -/
theorem toBits_ofInt (positive : 0 < n) (small : n < 2 ^ 53) (sign : Sign) :
    (Float.ofInt (sign.apply n)).toBits.toNat =
      signBit sign * 2 ^ 63 + ((n.log2 + 1022) * 2 ^ 52 + n * 2 ^ (52 - n.log2)) := by
  have normal := normal_of_small positive small
  have size : n.log2 < 53 := (Nat.log2_lt positive.ne').mpr small
  have signed : Float.ofInt (sign.apply n) =
      .ofModel (.pack (.finite sign (n * 2 ^ (52 - n.log2)) (-(52 - n.log2 : Nat)) normal.pos)) := by
    cases sign with
    | positive => exact ofNat_eq positive small
    | negative =>
      obtain ⟨previous, rfl⟩ := Nat.exists_eq_succ_of_ne_zero positive.ne'
      change Float.neg (Float.ofNat _) = _
      rw [ofNat_eq positive small]
      change Float.ofModel (.pack (UnpackedFloat.neg (Float.Model.pack _).unpack)) = _
      rw [normal.unpack_pack]
      rfl
  have bits : (Float.ofInt (sign.apply n)).toBits.toNat =
      (UnpackedFloat.pack .binary64 (.finite sign (n * 2 ^ (52 - n.log2)) (-(52 - n.log2 : Nat))
        normal.pos)).toNat := by
    rw [signed]
    rfl
  have high := normal.high
  have bounded := normal.bounded
  rw [bits, normal.pack_eq, toNat_packComponents, BitVec.toNat_ofNat, BitVec.toNat_ofNat]
  omega

/-- The place on the real line is read off the sign bit and the bits below it. -/
theorem position_of_bits {x : Float} {sign : Sign} {rest : Nat} (below : rest < 2 ^ 63)
    (bits : x.toBits.toNat = signBit sign * 2 ^ 63 + rest) : position x = sign.apply rest := by
  have remaining : magnitude x = rest := by
    simp only [magnitude, bits, Nat.pow_eq, Nat.mul_add_mod_self_right, Nat.mod_eq_of_lt below]
  cases sign with
  | positive =>
    have unsigned : isNegative x = false := by
      simpa [isNegative, bits, signBit] using below
    simp [position, unsigned, remaining, Sign.apply]
  | negative =>
    have signed : isNegative x = true := by
      simp [isNegative, bits, signBit]
    simp [position, signed, remaining, Sign.apply]

/-- The place on the real line of a positive number below `2 ^ 53`, and of its
negation. -/
theorem position_ofInt (positive : 0 < n) (small : n < 2 ^ 53) (sign : Sign) :
    position (Float.ofInt (sign.apply n)) =
      sign.apply ((n.log2 + 1022) * 2 ^ 52 + n * 2 ^ (52 - n.log2) : Nat) := by
  have bounded := (normal_of_small positive small).bounded
  have size : n.log2 < 53 := (Nat.log2_lt positive.ne').mpr small
  exact position_of_bits (by omega) (toBits_ofInt positive small sign)

/-! ## Numbers that are whole -/

/-- The bits of a number that is whole are those of the whole number: if the significand
is the whole number with zeros behind it, the exponent tells how many. -/
theorem magnitude_of_significand {x : Float} {zeros : Nat} (positive : 0 < n)
    (normal : exponentField x ≠ 0) (scaled : significand x = n * 2 ^ zeros)
    (placed : exponent x = -zeros) :
    n < 2 ^ 53 ∧ magnitude x = (n.log2 + 1022) * 2 ^ 52 + n * 2 ^ (52 - n.log2) := by
  have parts := Nat.div_add_mod (magnitude x) (2 ^ 52)
  have below := Nat.mod_lt (magnitude x) (Nat.two_pow_pos 52)
  simp only [significand, exponent, exponentField, Nat.pow_eq] at normal scaled placed
  simp only [normal, if_false] at scaled placed
  generalize magnitude x / 2 ^ 52 = field at *
  generalize magnitude x % 2 ^ 52 = fraction at *
  have few : zeros ≤ 52 := by
    by_contra many
    have large : 2 ^ 53 ≤ n * 2 ^ zeros :=
      (Nat.pow_le_pow_right (by decide) (by omega)).trans (Nat.le_mul_of_pos_left _ positive)
    omega
  have size : n.log2 = 52 - zeros := by
    refine (Nat.log2_eq_iff positive.ne').mpr ⟨?_, ?_⟩
    · refine Nat.le_of_mul_le_mul_right ?_ (Nat.two_pow_pos zeros)
      rw [← pow_add, ← scaled, show 52 - zeros + zeros = 52 by omega]
      omega
    · refine Nat.lt_of_mul_lt_mul_right (a := 2 ^ zeros) ?_
      rw [← pow_add, ← scaled, show 52 - zeros + 1 + zeros = 53 by omega]
      omega
  have small : n < 2 ^ 53 := by
    have := Nat.le_mul_of_pos_right n (Nat.two_pow_pos zeros)
    omega
  refine ⟨small, ?_⟩
  rw [size, show 52 - (52 - zeros) = zeros by omega, ← scaled]
  omega

/-- The parts of a number in the normal range. -/
theorem normal_parts {x : Float} (normal : exponentField x ≠ 0) :
    2 ^ 52 ≤ significand x ∧ significand x < 2 ^ 53 ∧
      (magnitude x : Int) = (exponent x + 1074) * 2 ^ 52 + significand x := by
  have parts := Nat.div_add_mod (magnitude x) (2 ^ 52)
  have below := Nat.mod_lt (magnitude x) (Nat.two_pow_pos 52)
  simp only [significand, exponent, exponentField, Nat.pow_eq] at normal ⊢
  simp only [normal, if_false]
  omega

/-- A whole number of at most `2 ^ 53` whose significand is scaled up. -/
theorem sizes_of_upward {x : Float} (upward : 0 ≤ exponent x)
    (atMost : significand x * 2 ^ (exponent x).toNat ≤ 2 ^ 53) :
    let n := significand x * 2 ^ (exponent x).toNat
    0 < n ∧ n < 2 ^ 53 ∧ magnitude x = (n.log2 + 1022) * 2 ^ 52 + n * 2 ^ (52 - n.log2) ∨
      n = 2 ^ 53 ∧ magnitude x = 1076 * 2 ^ 52 := by
  intro n
  have normal : exponentField x ≠ 0 := fun zero => by
    simp [exponent, zero] at upward
  obtain ⟨high, bounded, parts⟩ := normal_parts normal
  cases places : (exponent x).toNat with
  | zero =>
    have same : n = significand x := by simp [n, places]
    have scaled : significand x = n * 2 ^ 0 := by simp [same]
    obtain ⟨small, bits⟩ := magnitude_of_significand (by omega) normal scaled (by omega)
    exact .inl ⟨by omega, small, bits⟩
  | succ more =>
    have doubled : n = significand x * 2 ^ more * 2 := by
      simp only [n, places, pow_succ, mul_assoc]
    have growing := Nat.le_mul_of_pos_right (significand x) (Nat.two_pow_pos more)
    cases more with
    | zero => exact .inr (by omega)
    | succ evenMore =>
      have twice : significand x * 2 ≤ significand x * 2 ^ (evenMore + 1) := by
        refine Nat.mul_le_mul_left _ ?_
        rw [pow_succ]
        exact Nat.le_mul_of_pos_left 2 (Nat.two_pow_pos evenMore)
      omega

/-- A whole number whose significand has zeros that are shifted out. -/
theorem sizes_of_downward {x : Float} (downward : exponent x < 0)
    (divides : significand x % 2 ^ (-exponent x).toNat = 0) :
    let n := significand x / 2 ^ (-exponent x).toNat
    n = 0 ∧ magnitude x = 0 ∨
      0 < n ∧ n < 2 ^ 53 ∧
        magnitude x = (n.log2 + 1022) * 2 ^ 52 + n * 2 ^ (52 - n.log2) ∨
      n = 2 ^ 53 ∧ magnitude x = 1076 * 2 ^ 52 := by
  intro n
  by_cases normal : exponentField x = 0
  · have small : magnitude x < 2 ^ 52 := Nat.lt_of_div_eq_zero (Nat.two_pow_pos 52) normal
    have places : 52 ≤ (-exponent x).toNat := by simp [exponent, normal]
    have tiny : magnitude x < 2 ^ (-exponent x).toNat :=
      small.trans_le (Nat.pow_le_pow_right (by decide) places)
    have zero : magnitude x = 0 := by
      simpa [significand, normal, Nat.mod_eq_of_lt tiny] using divides
    exact .inl ⟨by simp [n, significand, normal, zero], zero⟩
  · obtain ⟨high, -, -⟩ := normal_parts normal
    have scaled : significand x = n * 2 ^ (-exponent x).toNat :=
      (Nat.div_mul_cancel (Nat.dvd_of_mod_eq_zero divides)).symm
    have positive : 0 < n := Nat.pos_of_ne_zero fun zero => by
      rw [zero, Nat.zero_mul] at scaled
      omega
    obtain ⟨small, bits⟩ := magnitude_of_significand positive normal scaled (by omega)
    exact .inr (.inl ⟨positive, small, bits⟩)

/-- The magnitude of a number that is whole. -/
theorem magnitude_of_exactInteger? {x : Float} {integer : Int}
    (whole : exactInteger? x = some integer) :
    ∃ n : Nat, integer = (if isNegative x then -(n : Int) else n) ∧
      (n = 0 ∧ magnitude x = 0 ∨
        0 < n ∧ n < 2 ^ 53 ∧
          magnitude x = (n.log2 + 1022) * 2 ^ 52 + n * 2 ^ (52 - n.log2) ∨
        n = 2 ^ 53 ∧ magnitude x = 1076 * 2 ^ 52) := by
  simp only [exactInteger?, Nat.pow_eq] at whole
  split at whole
  · split at whole
    · rename_i n found
      split at whole
      · rename_i atMost
        refine ⟨n, (Option.some.inj whole).symm, ?_⟩
        split at found
        · rename_i upward
          obtain rfl := Option.some.inj found
          exact .inr (sizes_of_upward upward atMost)
        · rename_i downward
          split at found
          · rename_i divides
            obtain rfl := Option.some.inj found
            exact sizes_of_downward (by omega) divides
          · cases found
      · cases whole
    · cases whole
  · cases whole

/-- The place of the largest whole numbers considered, which do not fit in a
significand. -/
theorem position_largest : position (Float.ofInt (2 ^ 53 : Nat)) = (1076 * 2 ^ 52 : Nat) ∧
    position (Float.ofInt (-(2 ^ 53 : Nat))) = -(1076 * 2 ^ 52 : Nat) := by
  decide +kernel

/-- A number that is whole stands where the whole number stands. -/
theorem position_ofInt_exactInteger {x : Float} {integer : Int}
    (whole : exactInteger? x = some integer) :
    position (Float.ofInt integer) = position x := by
  obtain ⟨n, rfl, sizes⟩ := magnitude_of_exactInteger? whole
  rcases sizes with ⟨rfl, zero⟩ | ⟨positive, small, bits⟩ | ⟨rfl, bits⟩
  · have atZero : position x = 0 := by simp [position, zero]
    rw [atZero]
    cases isNegative x <;> rfl
  · have placed := position_ofInt positive small
    simp only [position.eq_def x, bits]
    cases isNegative x with
    | false => simpa only [Sign.apply, Bool.false_eq_true, if_false] using placed .positive
    | true => simpa only [Sign.apply, if_true] using placed .negative
  · simp only [position.eq_def x, bits]
    cases isNegative x with
    | false => exact position_largest.1
    | true => exact position_largest.2

/-! ## Places on the real line -/

/-- A number that is not zero is the only one at its place of the real line. -/
theorem eq_of_position {x y : Float} (same : position x = position y) (nonzero : magnitude x ≠ 0) :
    x = y := by
  refine Float.toBits_inj.mp (UInt64.toNat_inj.mp ?_)
  have bounds : x.toBits.toNat < 2 ^ 64 ∧ y.toBits.toNat < 2 ^ 64 :=
    ⟨x.toBits.toNat_lt, y.toBits.toNat_lt⟩
  -- the sign bit tells on which side of zero a place is, the bits below it how far from zero
  simp only [position, isNegative, magnitude, Nat.pow_eq, decide_eq_true_eq] at same nonzero
  split at same <;> split at same <;> omega

/-- What is not whole is not zero. -/
theorem magnitude_ne_zero {x : Float} (finite : isFinite x = true)
    (notWhole : exactInteger? x = none) : magnitude x ≠ 0 := by
  intro zero
  have lowest : exponentField x = 0 := by simp [exponentField, zero]
  have downward : ¬ 0 ≤ exponent x := by simp [exponent, lowest]
  have nothing : significand x = 0 := by simp [significand, lowest, zero]
  simp [exactInteger?, finite, downward, nothing] at notWhole

end DocumentGateway.Decimal

namespace DocumentGateway

/-- A finite number has a JSON form, which stands where the number stands. -/
theorem Number.position_ofFloat? {x : Float} (finite : Decimal.isFinite x = true) :
    ∃ number, Number.ofFloat? x = some number ∧ number.position = Decimal.position x := by
  unfold Number.ofFloat?
  cases whole : Decimal.exactInteger? x with
  | some integer => exact ⟨.integer integer, rfl, Decimal.position_ofInt_exactInteger whole⟩
  | none => exact ⟨.real x, by simp [finite], rfl⟩

end DocumentGateway

import DocumentGateway.Json.Printer
import DocumentGateway.Proofs.Decimal.Shortest
import DocumentGateway.Proofs.Json.Numeral

/-!
# Numbers as text and back

The text of every number has the parts that the reader looks for, so it is read up to its
end and no further. An integer is read as it was. A floating-point number is read by the
coarser rule for JSON text, and whether it comes back is a question about this one
number.
-/
namespace DocumentGateway

open Decimal (isDigit)
open Json

/-- A number that a value can hold: an integer within 64 bits, with a sign or without, or
a finite floating-point number. -/
def Number.Valid : Number → Prop
  | .integer n => -2 ^ 63 ≤ n ∧ n < 2 ^ 64
  | .real x => Decimal.isFinite x = true

instance (number : Number) : Decidable number.Valid :=
  match number with
  | .integer n => inferInstanceAs (Decidable (-2 ^ 63 ≤ n ∧ n < 2 ^ 64))
  | .real x => inferInstanceAs (Decidable (Decimal.isFinite x = true))

/-- What the reader makes of the text of a number. -/
def Number.reread? (number : Number) : Option Number :=
  (readNumber (printNumber number)).map Prod.fst

namespace Json

/-- The digits of a natural number. -/
def Digits.ofNat (n : Nat) : Digits :=
  ⟨Nat.toDigits 10 n, Nat.toDigits_ne_nil, fun _ => Decimal.isDigit_of_mem_toDigits⟩

namespace Numeral

/-- An integer, as it is written. -/
def integer (negative : Bool) (n : Nat) : Numeral where
  negative := negative
  whole := .ofNat n
  unpadded := by
    intro padded
    rcases Nat.eq_zero_or_pos n with rfl | positive
    · rfl
    · exact absurd padded (Decimal.head_toDigits positive)
  fraction := none
  power := none

/-- A number with a fraction or a power, which is read as a floating-point number. -/
def IsReal (numeral : Numeral) : Prop :=
  numeral.fraction.isSome ∨ numeral.power.isSome

/-- A number with a fraction or a power is no integer. -/
theorem IsReal.value? {numeral : Numeral} (isReal : numeral.IsReal) {number : Number}
    (read : numeral.value? = some number) : ∃ x, number = .real x := by
  unfold Numeral.value? at read
  split at read
  · rename_i noFraction noPower
    simp [IsReal, noFraction, noPower] at isReal
  · obtain ⟨x, -, rfl⟩ := Option.map_eq_some_iff.mp read
    exact ⟨_, rfl⟩

/-- An integer is written as its sign and its decimal digits. -/
theorem text_integer (negative : Bool) (n : Nat) :
    (integer negative n).text = signText negative ++ Nat.toDigits 10 n := by
  simp [text, integer, fractionText, powerText, Digits.ofNat]

/-- The text of a number begins with its sign or with a digit. -/
theorem text_begins (numeral : Numeral) :
    ∃ first rest, numeral.text = first :: rest ∧ (first = '-' ∨ isDigit first = true) := by
  obtain ⟨first, others, same, digit⟩ := numeral.whole.exists_cons
  rw [text]
  cases numeral.negative with
  | true => exact ⟨'-', _, rfl, .inl rfl⟩
  | false =>
    rw [same]
    exact ⟨first, _, rfl, .inr digit⟩

end Numeral

/-- Zeros are digits. -/
theorem isDigit_of_mem_zeros {count : Nat} {c : Char} (zero : c ∈ List.replicate count '0') :
    isDigit c = true := by
  rw [List.eq_of_mem_replicate zero]
  decide

/-- Digits followed by digits are digits. -/
theorem digits_append {row more : List Char} (rowDigits : ∀ c ∈ row, isDigit c = true)
    (moreDigits : ∀ c ∈ more, isDigit c = true) : ∀ c ∈ row ++ more, isDigit c = true :=
  List.forall_mem_append.mpr ⟨rowDigits, moreDigits⟩

/-- Digits laid out with a point have the parts of a number. -/
theorem exists_numeral_positional {row : List Char} (nonempty : row ≠ [])
    (digits : ∀ c ∈ row, isDigit c = true) (started : row.head? ≠ some '0') (place : Int)
    (negative : Bool) :
    ∃ numeral : Numeral, numeral.IsReal ∧
      numeral.text = Numeral.signText negative ++ Decimal.positional row place := by
  obtain ⟨first, others, rfl⟩ := List.exists_cons_of_ne_nil nonempty
  have notZero : first ≠ '0' := fun zero => started (congrArg some zero)
  unfold Decimal.positional
  split
  · refine ⟨⟨negative, ⟨['0'], by simp, by simp; decide⟩, fun _ => rfl,
      some ⟨List.replicate (-place - 1).toNat '0' ++ first :: others, by simp,
        digits_append (fun _ => isDigit_of_mem_zeros) digits⟩, none⟩, .inl rfl, ?_⟩
    simp [Numeral.text, Numeral.fractionText, Numeral.powerText]
  · simp only
    split
    · refine ⟨⟨negative, ⟨first :: others ++ List.replicate (place.toNat + 1 -
          (first :: others).length) '0', by simp, digits_append digits fun _ => isDigit_of_mem_zeros⟩,
        fun padded => absurd (Option.some.inj padded) notZero,
        some ⟨['0'], by simp, by simp; decide⟩, none⟩, .inl rfl, ?_⟩
      simp [Numeral.text, Numeral.fractionText, Numeral.powerText]
    · rename_i long
      have fraction : (first :: others).drop (place.toNat + 1) ≠ [] := by
        simpa using long
      refine ⟨⟨negative, ⟨(first :: others).take (place.toNat + 1), by simp,
          fun c member => digits c (List.mem_of_mem_take member)⟩,
        fun padded => absurd (Option.some.inj padded) notZero,
        some ⟨(first :: others).drop (place.toNat + 1), fraction,
          fun c member => digits c (List.mem_of_mem_drop member)⟩, none⟩, .inl rfl, ?_⟩
      simp [Numeral.text, Numeral.fractionText, Numeral.powerText]

/-- Digits laid out with an exponent have the parts of a number. -/
theorem exists_numeral_withExponent {row : List Char} (nonempty : row ≠ [])
    (digits : ∀ c ∈ row, isDigit c = true) (place : Int) (negative : Bool) :
    ∃ numeral : Numeral, numeral.IsReal ∧
      numeral.text = Numeral.signText negative ++ Decimal.withExponent row place := by
  obtain ⟨first, others, rfl⟩ := List.exists_cons_of_ne_nil nonempty
  obtain ⟨firstDigit, otherDigits⟩ := List.forall_mem_cons.mp digits
  have whole : ∀ c ∈ [first], isDigit c = true := by simpa using firstDigit
  let power : Option (Bool × Digits) := some (decide (place < 0), .ofNat place.natAbs)
  have powerText : Numeral.powerText power =
      ['e', if place < 0 then '-' else '+'] ++ Nat.toDigits 10 place.natAbs := by
    simp [power, Numeral.powerText, Digits.ofNat]
  cases others with
  | nil =>
    refine ⟨⟨negative, ⟨[first], by simp, whole⟩, fun _ => rfl, none, power⟩, .inr rfl, ?_⟩
    simp [Numeral.text, Numeral.fractionText, powerText, Decimal.withExponent]
  | cons second others =>
    refine ⟨⟨negative, ⟨[first], by simp, whole⟩, fun _ => rfl,
      some ⟨second :: others, by simp, otherDigits⟩, power⟩, .inl rfl, ?_⟩
    simp [Numeral.text, Numeral.fractionText, powerText, Decimal.withExponent]

/-- The text of every floating-point number has the parts of a number, and more of them than
an integer. -/
theorem exists_numeral_real (x : Float) :
    ∃ numeral : Numeral, numeral.IsReal ∧ numeral.text = Decimal.text x := by
  by_cases zero : Decimal.magnitude x = 0
  · refine ⟨⟨Decimal.isNegative x, ⟨['0'], by simp, by simp; decide⟩, fun _ => rfl,
      some ⟨['0'], by simp, by simp; decide⟩, none⟩, .inl rfl, ?_⟩
    simp [Numeral.text, Numeral.signText, Numeral.fractionText, Numeral.powerText, Decimal.text, zero]
  · obtain ⟨nonempty, digits, started⟩ :=
      Decimal.digitsAndPlace_spec (Decimal.shortest_pos zero)
    have laidOut : Decimal.text x =
        Numeral.signText (Decimal.isNegative x) ++ Decimal.positiveText x := by
      simp [Decimal.text, zero, Numeral.signText]
    rw [laidOut]
    unfold Decimal.positiveText
    simp only
    split
    · exact exists_numeral_positional nonempty digits started _ _
    · exact exists_numeral_withExponent nonempty digits _ _

/-- The text of every number has the parts of a number. -/
theorem exists_numeral {number : Number} (valid : number.Valid) :
    ∃ numeral : Numeral, numeral.text = printNumber number := by
  cases number with
  | integer n =>
    cases n with
    | ofNat n => exact ⟨.integer false n, Numeral.text_integer false n⟩
    | negSucc n => exact ⟨.integer true (n + 1), Numeral.text_integer true (n + 1)⟩
  | real x =>
    have finite : Decimal.isFinite x = true := valid
    obtain ⟨numeral, -, same⟩ := exists_numeral_real x
    exact ⟨numeral, by simp [same, printNumber, finite]⟩

/-- The text of a number begins with a sign or a digit. -/
theorem printNumber_begins {number : Number} (valid : number.Valid) :
    ∃ first rest, printNumber number = first :: rest ∧ (first = '-' ∨ isDigit first = true) := by
  obtain ⟨numeral, same⟩ := exists_numeral valid
  rw [← same]
  exact numeral.text_begins

/-- The reader takes the text of a number and nothing else. -/
theorem readNumber_printNumber {number : Number} (valid : number.Valid) {rest : List Char}
    (ended : Ended rest) :
    readNumber (printNumber number ++ rest) = number.reread?.map fun read => (read, rest) := by
  obtain ⟨numeral, same⟩ := exists_numeral valid
  have alone := numeral.readNumber_text ended_nil
  rw [List.append_nil] at alone
  rw [Number.reread?, ← same, numeral.readNumber_text ended, alone, Option.map_map, Option.map_map]
  rfl

end Json

/-- A finite floating-point number is read as a floating-point number. -/
theorem Number.reread?_real {x : Float} (finite : Decimal.isFinite x = true) {number : Number}
    (read : (Number.real x).reread? = some number) : ∃ y, number = .real y := by
  obtain ⟨numeral, isReal, same⟩ := exists_numeral_real x
  have meant : (Number.real x).reread? = numeral.value? := by
    have alone := numeral.readNumber_text ended_nil
    rw [List.append_nil] at alone
    rw [reread?, printNumber, if_pos finite, ← same, alone, Option.map_map]
    exact Option.map_id'
  exact isReal.value? (meant ▸ read)

/-- An integer within its bounds comes back from its text. -/
theorem Number.reread?_integer {n : Int} (valid : (Number.integer n).Valid) :
    (Number.integer n).reread? = some (.integer n) := by
  obtain ⟨lower, upper⟩ := valid
  have read : ∀ negative k, readNumber (Numeral.signText negative ++ Nat.toDigits 10 k) =
      (integerLiteral negative (Nat.toDigits 10 k)).map fun number => (number, []) := by
    intro negative k
    have whole := (Numeral.integer negative k).readNumber_text ended_nil
    rw [List.append_nil, Numeral.text_integer] at whole
    exact whole
  cases n with
  | ofNat n =>
    have fits : n < Nat.pow 2 64 := Int.ofNat_lt.mp upper
    have literal : integerLiteral false (Nat.toDigits 10 n) = some (.integer n) := by
      simp only [integerLiteral, Decimal.natural_toDigits, Bool.false_eq_true, if_false]
      exact if_pos fits
    have text : printNumber (.integer (.ofNat n)) = Numeral.signText false ++ Nat.toDigits 10 n := rfl
    rw [reread?, text, read, literal]
    rfl
  | negSucc n =>
    have fits : ¬ (n + 1 = 0 ∨ Nat.pow 2 63 < n + 1) := by
      have bound : Nat.pow 2 63 = 2 ^ 63 := rfl
      omega
    have literal : integerLiteral true (Nat.toDigits 10 (n + 1)) = some (.integer (.negSucc n)) := by
      simp only [integerLiteral, Decimal.natural_toDigits, if_true]
      exact if_neg fits
    have text : printNumber (.integer (.negSucc n)) =
      Numeral.signText true ++ Nat.toDigits 10 (n + 1) := rfl
    rw [reread?, text, read, literal]
    rfl

end DocumentGateway

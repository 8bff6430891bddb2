import DocumentGateway.Json.Reader

/-!
# The parts of a written number

A number is written as a sign, whole digits, a fraction and a power, of which only the
whole digits have to be there. The reader takes such a text apart again: it reads all of
it, nothing of what follows, and only the parts decide what number it is.
-/
namespace DocumentGateway.Json

open Decimal (isDigit)

/-- Digits, at least one. -/
structure Digits where
  row : List Char
  nonempty : row ≠ []
  digits : ∀ c ∈ row, isDigit c = true

/-- The parts of a written number. Only a single whole digit may be zero at its front. A
power shows its sign. -/
structure Numeral where
  negative : Bool
  whole : Digits
  unpadded : whole.row.head? = some '0' → whole.row.length = 1
  fraction : Option Digits
  power : Option (Bool × Digits)

/-- A text in which a number cannot go on. -/
def Ended (text : List Char) : Prop :=
  ∀ c, text.head? = some c → isDigit c = false ∧ c ≠ '.' ∧ c ≠ 'e' ∧ c ≠ 'E'

/-- At the end of the text no number goes on. -/
theorem ended_nil : Ended [] := by
  simp [Ended]

namespace Digits

/-- Digits end where the text goes on with something else. -/
theorem takeWhile_append (digits : Digits) {rest : List Char}
    (ended : ∀ c, rest.head? = some c → isDigit c = false) :
    (digits.row ++ rest).takeWhile isDigit = digits.row ∧
      (digits.row ++ rest).dropWhile isDigit = rest := by
  rw [List.takeWhile_append_of_pos digits.digits, List.dropWhile_append_of_pos digits.digits]
  cases rest with
  | nil => simp
  | cons c rest => simp [ended c rfl]

/-- A row of digits has at least one. -/
theorem isEmpty_row (digits : Digits) : digits.row.isEmpty = false := by
  simpa using digits.nonempty

/-- The first of the digits and the others. -/
theorem exists_cons (digits : Digits) :
    ∃ first others, digits.row = first :: others ∧ isDigit first = true := by
  obtain ⟨first, others, same⟩ := List.exists_cons_of_ne_nil digits.nonempty
  exact ⟨first, others, same, digits.digits first (by simp [same])⟩

end Digits

/-- A digit differs from whatever is no digit. -/
theorem isDigit_ne {c other : Char} (digit : isDigit c = true) (noDigit : isDigit other = false) :
    c ≠ other := by
  rintro rfl
  rw [digit] at noDigit
  cases noDigit

namespace Numeral

/-- The sign of a number as it is written. -/
def signText (negative : Bool) : List Char :=
  if negative then ['-'] else []

/-- The fraction as it is written. -/
def fractionText : Option Digits → List Char
  | none => []
  | some digits => '.' :: digits.row

/-- The power as it is written. -/
def powerText : Option (Bool × Digits) → List Char
  | none => []
  | some (negative, digits) => 'e' :: (if negative then '-' else '+') :: digits.row

/-- The number as it is written. -/
def text (numeral : Numeral) : List Char :=
  signText numeral.negative ++ numeral.whole.row ++ fractionText numeral.fraction ++
    powerText numeral.power

/-- The integer that a power stands for. -/
def powerValue : Bool × Digits → Int
  | (negative, digits) =>
    if negative then -(Decimal.natural digits.row : Int) else Decimal.natural digits.row

/-- The number that is meant. Without a fraction and a power it is an integer if it fits. -/
def value? (numeral : Numeral) : Option Number :=
  match numeral.fraction, numeral.power with
  | none, none => integerLiteral numeral.negative numeral.whole.row
  | fraction, power =>
    (Decimal.ofLimited numeral.whole.row ((fraction.map Digits.row).getD [])
      ((power.map powerValue).getD 0)).map fun x => .real (if numeral.negative then -x else x)

/-- A power is read as it was written, if what follows it cannot go on with it. -/
theorem readPower_powerText (power : Option (Bool × Digits)) {rest : List Char}
    (ended : Ended rest) :
    readPower (powerText power ++ rest) = some (power.map powerValue, rest) := by
  cases power with
  | none =>
    cases rest with
    | nil => rfl
    | cons c rest =>
      obtain ⟨-, -, notLower, notUpper⟩ := ended c rfl
      simp [powerText, readPower, notLower, notUpper]
  | some power =>
    obtain ⟨negative, digits⟩ := power
    obtain ⟨taken, dropped⟩ := digits.takeWhile_append fun c first => (ended c first).1
    cases negative <;>
      simp [powerText, readPower, Decimal.readSign, taken, dropped, digits.isEmpty_row, powerValue]

/-- A fraction is read as it was written, if neither a digit nor a point follows it. -/
theorem readFraction_fractionText (fraction : Option Digits) {rest : List Char}
    (ended : ∀ c, rest.head? = some c → isDigit c = false ∧ c ≠ '.') :
    readFraction (fractionText fraction ++ rest) = some (fraction.map Digits.row, rest) := by
  cases fraction with
  | none =>
    cases rest with
    | nil => rfl
    | cons c rest =>
      obtain ⟨-, noPoint⟩ := ended c rfl
      simp only [fractionText, List.nil_append, Option.map_none]
      unfold readFraction
      split
      · rename_i same
        exact absurd (List.cons.inj same).1 noPoint
      · rfl
  | some digits =>
    obtain ⟨taken, dropped⟩ := digits.takeWhile_append fun c first => (ended c first).1
    simp [fractionText, readFraction, taken, dropped, digits.isEmpty_row]

/-- A number cannot go on in its own power, nor in what follows it. -/
theorem powerText_ended (power : Option (Bool × Digits)) {rest : List Char} (ended : Ended rest) :
    ∀ c, (powerText power ++ rest).head? = some c → isDigit c = false ∧ c ≠ '.' := by
  intro c first
  cases power with
  | none => exact ⟨(ended c first).1, (ended c first).2.1⟩
  | some power =>
    obtain rfl : 'e' = c := Option.some.inj first
    decide

/-- The whole digits do not go on in the fraction. -/
theorem fractionText_ended (fraction : Option Digits) {rest : List Char}
    (ended : ∀ c, rest.head? = some c → isDigit c = false ∧ c ≠ '.') :
    ∀ c, (fractionText fraction ++ rest).head? = some c → isDigit c = false := by
  intro c first
  cases fraction with
  | none => exact (ended c first).1
  | some digits =>
    obtain rfl : '.' = c := Option.some.inj first
    decide

/-- The sign is read off the front of a number. -/
theorem readNumber_signText (negative : Bool) (digits : Digits) (rest : List Char) :
    readNumber (signText negative ++ (digits.row ++ rest)) =
      readUnsigned negative (digits.row ++ rest) := by
  obtain ⟨first, others, same, digit⟩ := digits.exists_cons
  cases negative with
  | true => rfl
  | false =>
    rw [same]
    unfold readNumber
    split
    · rename_i minus
      exact absurd (List.cons.inj minus).1 (isDigit_ne digit (by decide))
    · rfl

/-- A written number is read up to its end, and its parts say what number it is. -/
theorem readNumber_text (numeral : Numeral) {rest : List Char} (ended : Ended rest) :
    readNumber (numeral.text ++ rest) = numeral.value?.map fun number => (number, rest) := by
  obtain ⟨negative, whole, unpadded, fraction, power⟩ := numeral
  have powerEnded := powerText_ended power ended
  obtain ⟨taken, dropped⟩ := whole.takeWhile_append (fractionText_ended fraction powerEnded)
  have notPadded : (whole.row.isEmpty || (decide (whole.row.head? = some '0') &&
      decide (1 < whole.row.length))) = false := by
    rw [whole.isEmpty_row, Bool.false_or]
    by_cases zero : whole.row.head? = some '0'
    · simp [unpadded zero]
    · simp [zero]
  have arranged : Numeral.text ⟨negative, whole, unpadded, fraction, power⟩ ++ rest =
      signText negative ++ (whole.row ++ (fractionText fraction ++ (powerText power ++ rest))) := by
    simp [text]
  rw [arranged, readNumber_signText, readUnsigned]
  simp only [taken, dropped, notPadded, readFraction_fractionText fraction powerEnded,
    readPower_powerText power ended, bind, Option.bind]
  cases fraction with
  | none =>
    cases power with
    | none => simp [value?]
    | some power =>
      simp only [value?, Option.map_map]
      rfl
  | some fraction =>
    simp only [value?, Option.map_map]
    rfl

end Numeral

end DocumentGateway.Json

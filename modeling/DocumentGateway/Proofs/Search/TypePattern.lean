import DocumentGateway.Proofs.Decimal.Digits
import DocumentGateway.Search.Literal
import Mathlib.Data.List.Infix
import Mathlib.Data.List.TakeWhile

/-!
# Patterns of typed values

A number is written as an optional minus sign, digits and an optional fraction, a boolean as one
of two words. Under `whole` matching a raw value has to be such a text, and under `anywhere`
matching such a text has to occur in it. What is recognized as a whole occurs in itself, at its
very front, so neither an occurrence further in front nor the other word can take its place.

What a raw value is typed as follows from the answers of a recognizer, and from whether the value
reads as a finite number at all.
-/
namespace DocumentGateway.Search

/-! ## Types of raw values -/

namespace Recognizer

variable {recognizer : Recognizer} {raw : List Char}

/-- What looks like a number and reads as one is this number. -/
theorem number?_eq_some {x : Float} (numeric : recognizer.isNumeric raw = true)
    (read : finite? raw = some x) : recognizer.number? raw = some x := by
  rw [number?, if_pos numeric, read]

/-- What reads as no number is none, whatever it looks like. -/
theorem number?_eq_none (unread : finite? raw = none) : recognizer.number? raw = none := by
  simp [number?, unread]

/-- A number is typed as a number, whether or not it passes for a boolean too. -/
theorem infer_eq_number {x : Float} (found : recognizer.number? raw = some x) :
    recognizer.infer raw = .number x := by
  simp only [infer, found]

/-- What reads as no number and passes for a boolean is this boolean. -/
theorem infer_eq_boolean {b : Bool} (unread : finite? raw = none)
    (word : recognizer.boolean? raw = some b) : recognizer.infer raw = .boolean b := by
  simp only [infer, number?_eq_none unread, word]

/-- What is no number and passes for no boolean is a text. -/
theorem infer_eq_text (noNumber : recognizer.number? raw = none)
    (noBoolean : recognizer.boolean? raw = none) : recognizer.infer raw = .text raw := by
  simp only [infer, noNumber, noBoolean]

end Recognizer

/-! ## Numerals -/

/-- Decimal digits of any script, at least one. -/
structure Digits (row : List Char) : Prop where
  nonempty : row ≠ []
  digits : ∀ c ∈ row, Text.isDecimalDigit c = true

/-- The fraction of a numeral: nothing, or digits behind a point. -/
def Fraction (text : List Char) : Prop :=
  text = [] ∨ ∃ places, text = '.' :: places ∧ Digits places

/-- Digits and a fraction. -/
def Unsigned (text : List Char) : Prop :=
  ∃ whole fraction, text = whole ++ fraction ∧ Digits whole ∧ Fraction fraction

/-- A text that is a number by its pattern: the sign, if there is one, is a minus sign. -/
def Numeral (text : List Char) : Prop :=
  Unsigned text ∨ ∃ unsigned, text = '-' :: unsigned ∧ Unsigned unsigned

/-- The characters that a numeral has besides its digits are no digits. -/
theorem isDecimalDigit_mark : Text.isDecimalDigit '.' = false ∧ Text.isDecimalDigit '-' = false := by
  rw [Text.isDecimalDigit, Text.isDecimalDigit, Text.decimalDigits_eq]
  decide

/-- A single digit is a row of digits. -/
theorem Digits.singleton {c : Char} (digit : Text.isDecimalDigit c = true) : Digits [c] :=
  ⟨List.cons_ne_nil c [], by simpa using digit⟩

/-- Digits end where a fraction begins. -/
theorem Digits.span {whole fraction : List Char} (digits : Digits whole)
    (behind : Fraction fraction) :
    (whole ++ fraction).takeWhile Text.isDecimalDigit = whole ∧
      (whole ++ fraction).dropWhile Text.isDecimalDigit = fraction := by
  rw [List.takeWhile_append_of_pos digits.digits, List.dropWhile_append_of_pos digits.digits]
  rcases behind with rfl | ⟨places, rfl, -⟩
  · simp
  · simp [isDecimalDigit_mark.1]

/-- What the digits in front leave is a fraction exactly if the recognizer passes it. -/
theorem fraction_iff {text : List Char} :
    (match text with
      | [] => true
      | '.' :: places => !places.isEmpty && places.all Text.isDecimalDigit
      | _ => false) = true ↔ Fraction text := by
  split
  · simp [Fraction]
  · rename_i places
    constructor
    · intro passed
      obtain ⟨nonempty, digits⟩ := Bool.and_eq_true_iff.mp passed
      exact .inr ⟨places, rfl, by simpa using nonempty, by simpa using digits⟩
    · rintro (empty | ⟨_, same, nonempty, digits⟩)
      · cases empty
      · cases same
        simpa [nonempty] using digits
  · rename_i notEmpty notPoint
    constructor
    · intro passed
      cases passed
    · rintro (empty | ⟨places, same, -⟩)
      · exact absurd empty notEmpty
      · exact absurd same (notPoint places)

/-- A numeral without a sign begins with digits, and what they leave is a fraction. -/
theorem unsigned_iff {text : List Char} :
    Unsigned text ↔ text.takeWhile Text.isDecimalDigit ≠ [] ∧
      Fraction (text.dropWhile Text.isDecimalDigit) := by
  constructor
  · rintro ⟨whole, fraction, rfl, digits, behind⟩
    rw [(digits.span behind).1, (digits.span behind).2]
    exact ⟨digits.nonempty, behind⟩
  · rintro ⟨nonempty, behind⟩
    have digits : Digits (text.takeWhile Text.isDecimalDigit) :=
      ⟨nonempty, fun _ member => List.mem_takeWhile_imp member⟩
    exact ⟨_, _, (List.takeWhile_append_dropWhile).symm, digits, behind⟩

/-- What has no sign does not begin with one. -/
theorem not_unsigned_cons {text : List Char} : ¬ Unsigned ('-' :: text) := by
  intro unsigned
  have begins := (unsigned_iff.mp unsigned).1
  simp [isDecimalDigit_mark.2] at begins

/-- The recognizer of whole numerals passes what is written by the pattern. -/
theorem isNumeral_iff {raw : List Char} : isNumeral raw = true ↔ Numeral raw := by
  have passes : ∀ unsigned : List Char,
      (if (unsigned.takeWhile Text.isDecimalDigit).isEmpty then false
        else match unsigned.dropWhile Text.isDecimalDigit with
          | [] => true
          | '.' :: places => !places.isEmpty && places.all Text.isDecimalDigit
          | _ => false) = true ↔ Unsigned unsigned := by
    intro unsigned
    rw [unsigned_iff, ← fraction_iff]
    by_cases bare : unsigned.takeWhile Text.isDecimalDigit = [] <;> simp [bare]
  unfold isNumeral
  split
  · rename_i rest
    refine (passes rest).trans ⟨fun unsigned => .inr ⟨rest, rfl, unsigned⟩, ?_⟩
    rintro (unsigned | ⟨other, same, unsigned⟩)
    · exact absurd unsigned not_unsigned_cons
    · cases same
      exact unsigned
  · rename_i noSign
    refine (passes raw).trans ⟨.inl, ?_⟩
    rintro (unsigned | ⟨rest, same, -⟩)
    · exact unsigned
    · exact absurd same (noSign rest)

/-- A numeral has a digit. -/
theorem Numeral.exists_digit {text : List Char} (numeral : Numeral text) :
    ∃ c ∈ text, Text.isDecimalDigit c = true := by
  have digit : ∀ {unsigned}, Unsigned unsigned → ∃ c ∈ unsigned, Text.isDecimalDigit c = true := by
    rintro _ ⟨whole, fraction, rfl, digits, -⟩
    obtain ⟨c, member⟩ := List.exists_mem_of_ne_nil whole digits.nonempty
    exact ⟨c, List.mem_append_left fraction member, digits.digits c member⟩
  rcases numeral with unsigned | ⟨rest, rfl, unsigned⟩
  · exact digit unsigned
  · obtain ⟨c, member, isDigit⟩ := digit unsigned
    exact ⟨c, List.mem_cons_of_mem '-' member, isDigit⟩

namespace Matching

/-- Under `whole` matching what looks like a number is a numeral. -/
theorem isNumeric_whole_iff {raw : List Char} :
    Matching.whole.isNumeric raw = true ↔ Numeral raw :=
  isNumeral_iff

/-- A single digit is a numeral, so a digit anywhere is an occurrence of one. -/
theorem isNumeric_anywhere_iff {raw : List Char} :
    Matching.anywhere.isNumeric raw = true ↔ ∃ piece, piece <:+: raw ∧ Numeral piece := by
  rw [isNumeric, List.any_eq_true]
  constructor
  · rintro ⟨c, member, digit⟩
    have unsigned : Unsigned [c] := ⟨[c], [], rfl, .singleton digit, .inl rfl⟩
    exact ⟨[c], (List.singleton_infix_iff c raw).mpr member, .inl unsigned⟩
  · rintro ⟨piece, occurs, numeral⟩
    obtain ⟨c, member, digit⟩ := numeral.exists_digit
    exact ⟨c, occurs.subset member, digit⟩

/-- A numeral occurs in itself, so what looks like a number as a whole does so anywhere. -/
theorem isNumeric_of_whole {raw : List Char} (numeral : Matching.whole.isNumeric raw = true) :
    Matching.anywhere.isNumeric raw = true :=
  isNumeric_anywhere_iff.mpr ⟨raw, List.infix_rfl, isNumeric_whole_iff.mp numeral⟩

end Matching

/-! ## Boolean words -/

/-- The word of a boolean. -/
def booleanWord : Bool → List Char
  | true => ['t', 'r', 'u', 'e']
  | false => ['f', 'a', 'l', 's', 'e']

/-- The word of a boolean occurs in a text, and no boolean word occurs further in front. -/
def LeftmostBoolean (text : List Char) (b : Bool) : Prop :=
  ∃ before after, text = before ++ booleanWord b ++ after ∧
    ∀ other front back, text = front ++ booleanWord other ++ back → before.length ≤ front.length

/-- No boolean word reads as a number. -/
theorem finite?_booleanWord (b : Bool) : finite? (booleanWord b) = none := by
  cases b <;> rfl

/-- Only one of the words can stand at a place. -/
theorem booleanWord_unique {text : List Char} {b other : Bool}
    (here : booleanWord b <+: text) (there : booleanWord other <+: text) : b = other := by
  obtain ⟨after, rfl⟩ := here
  obtain ⟨back, same⟩ := there
  cases b <;> cases other <;> simp [booleanWord] at same ⊢

/-- A boolean word at the front is found first. -/
theorem leftmostBoolean?_at_front {text : List Char} {b : Bool} (here : booleanWord b <+: text) :
    leftmostBoolean? text = some b := by
  obtain ⟨after, rfl⟩ := here
  cases b <;> simp [booleanWord, leftmostBoolean?, List.isPrefixOf]

/-- If no boolean word begins here, the search goes on behind the first character. -/
theorem leftmostBoolean?_cons {c : Char} {rest : List Char}
    (elsewhere : ∀ b, ¬ booleanWord b <+: c :: rest) :
    leftmostBoolean? (c :: rest) = leftmostBoolean? rest := by
  have passed : ∀ b, ¬ (booleanWord b).isPrefixOf (c :: rest) = true := by
    intro b begins
    exact elsewhere b (List.isPrefixOf_iff_prefix.mp begins)
  rw [leftmostBoolean?]
  exact (if_neg (passed true)).trans (if_neg (passed false))

/-- The search from the left finds the boolean whose word comes first. -/
theorem leftmostBoolean?_eq_some_iff {text : List Char} {b : Bool} :
    leftmostBoolean? text = some b ↔ LeftmostBoolean text b := by
  induction text with
  | nil =>
    constructor
    · intro found
      cases found
    · rintro ⟨before, after, same, -⟩
      cases b <;> simp [booleanWord] at same
  | cons c rest inductionHypothesis =>
    by_cases here : ∃ word, booleanWord word <+: c :: rest
    · obtain ⟨word, begins⟩ := here
      rw [leftmostBoolean?_at_front begins, Option.some.injEq]
      obtain ⟨after, same⟩ := begins
      constructor
      · rintro rfl
        exact ⟨[], after, same.symm, fun _ _ _ _ => Nat.zero_le _⟩
      · rintro ⟨before, behind, occurs, first⟩
        obtain rfl : before = [] := List.length_eq_zero_iff.mp <|
          Nat.le_zero.mp (first word [] after same.symm)
        exact booleanWord_unique ⟨after, same⟩ ⟨behind, occurs.symm⟩
    · have elsewhere : ∀ word, ¬ booleanWord word <+: c :: rest := not_exists.mp here
      rw [leftmostBoolean?_cons elsewhere, inductionHypothesis]
      -- No word begins at the front, so what stands before an occurrence begins with `c`.
      have shifted : ∀ {word front back}, c :: rest = front ++ booleanWord word ++ back →
          ∃ front', front = c :: front' ∧ rest = front' ++ booleanWord word ++ back := by
        intro word front back occurs
        cases front with
        | nil => exact absurd ⟨back, occurs.symm⟩ (elsewhere word)
        | cons d front' =>
          obtain ⟨rfl, same⟩ := List.cons_eq_cons.mp occurs
          exact ⟨front', rfl, same⟩
      constructor
      · rintro ⟨before, after, rfl, first⟩
        refine ⟨c :: before, after, rfl, fun other front back occurs => ?_⟩
        obtain ⟨front', rfl, same⟩ := shifted occurs
        exact Nat.succ_le_succ (first other front' back same)
      · rintro ⟨before, after, occurs, first⟩
        obtain ⟨before', rfl, same⟩ := shifted occurs
        refine ⟨before', after, same, fun other front back there => ?_⟩
        exact Nat.le_of_succ_le_succ (first other (c :: front) back (congrArg (c :: ·) there))

namespace Matching

/-- Under `whole` matching only the word itself passes for its boolean. -/
theorem boolean?_whole_iff {raw : List Char} {b : Bool} :
    Matching.whole.boolean? raw = some b ↔ raw = booleanWord b := by
  by_cases isTrue : raw = ['t', 'r', 'u', 'e']
  · subst isTrue
    cases b <;> simp [boolean?, booleanWord]
  · by_cases isFalse : raw = ['f', 'a', 'l', 's', 'e']
    · subst isFalse
      cases b <;> simp [boolean?, booleanWord]
    · cases b <;> simp [boolean?, booleanWord, isTrue, isFalse]

/-- Under `anywhere` matching the boolean word that comes first counts. -/
theorem boolean?_anywhere_iff {raw : List Char} {b : Bool} :
    Matching.anywhere.boolean? raw = some b ↔ LeftmostBoolean raw b :=
  leftmostBoolean?_eq_some_iff

/-- A boolean word passes for its boolean anywhere too, because no word comes before it. -/
theorem boolean?_of_whole {raw : List Char} {b : Bool}
    (word : Matching.whole.boolean? raw = some b) : Matching.anywhere.boolean? raw = some b := by
  obtain rfl := boolean?_whole_iff.mp word
  exact boolean?_anywhere_iff.mpr ⟨[], [], by simp, fun _ _ _ _ => Nat.zero_le _⟩

end Matching

end DocumentGateway.Search

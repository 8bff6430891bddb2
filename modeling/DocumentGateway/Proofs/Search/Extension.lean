import DocumentGateway.Proofs.Search.Report
import DocumentGateway.Proofs.Search.TypePattern

/-!
# Recognizers that recognize more

One recognizer extends another if it takes for numbers and booleans at least what the other takes
for them. A type is tried after a type, so more numbers could cost a boolean: what the smaller
recognizer takes for a boolean must not read as a number. A larger recognizer then types alike
whatever the smaller one types at all, skips none of the terms that the smaller one reads, and
compares with the same numbers. Matching anywhere extends matching as a whole.
-/
namespace DocumentGateway.Search

namespace Recognizer

/-- The recognizer `larger` takes for numbers and booleans what `smaller` takes for them. -/
structure Extends (larger smaller : Recognizer) : Prop where
  numeric : ∀ raw, smaller.isNumeric raw = true → larger.isNumeric raw = true
  boolean : ∀ raw b, smaller.boolean? raw = some b → larger.boolean? raw = some b
  unread : ∀ raw b, smaller.boolean? raw = some b → finite? raw = none

namespace Extends

variable {larger smaller : Recognizer} (extension : larger.Extends smaller)
include extension

/-- What is a number to the smaller recognizer is the same number to the larger one. -/
theorem number {raw : List Char} {x : Float} (number : smaller.number? raw = some x) :
    larger.number? raw = some x := by
  obtain ⟨numeric, read⟩ := Option.ite_none_right_eq_some.mp number
  exact number?_eq_some (extension.numeric raw numeric) read

/-- What the smaller recognizer types at all the larger one types alike. What the smaller one takes
for a boolean is tried as a number first, in vain. -/
theorem infer {raw : List Char} (typed : smaller.infer raw ≠ .text raw) :
    larger.infer raw = smaller.infer raw := by
  cases number : smaller.number? raw with
  | some x => rw [infer_eq_number number, infer_eq_number (extension.number number)]
  | none =>
    cases word : smaller.boolean? raw with
    | some b =>
      have unread := extension.unread raw b word
      rw [infer_eq_boolean unread word, infer_eq_boolean unread (extension.boolean raw b word)]
    | none => exact absurd (infer_eq_text number word) typed

/-- An operand that is a number to the smaller recognizer is the same number to the larger one. -/
theorem operand {comparison : Comparison} {raw : List Char} {x : Float}
    (compared : smaller.operand comparison raw = .ok (.number x)) :
    larger.operand comparison raw = .ok (.number x) := by
  cases comparison with
  | ne =>
    cases number : smaller.number? raw with
    | none => simp [Recognizer.operand, number] at compared
    | some y =>
      have same : y = x := by simpa [Recognizer.operand, number] using compared
      simp only [Recognizer.operand, extension.number number, same]
  | gte | lte | gt | lt =>
    cases numeric : smaller.isNumeric raw with
    | false => simp [Recognizer.operand, numeric] at compared
    | true =>
      simp only [Recognizer.operand, numeric, if_true] at compared
      simp only [Recognizer.operand, extension.numeric raw numeric, if_true]
      exact compared

/-- A comparison with a number is read alike. -/
theorem interpret_compare {text : List Char} {field : String} {comparison : Comparison} {x : Float}
    (read : smaller.interpret text = .ok (.compare field comparison (.number x))) :
    larger.interpret text = .ok (.compare field comparison (.number x)) := by
  obtain ⟨term, parsed, made⟩ := interpret_eq_ok_iff.mp read
  refine interpret_eq_ok_iff.mpr ⟨term, parsed, change_eq_ok_iff.mpr (.inr ?_)⟩
  rcases change_eq_ok_iff.mp made with ⟨-, binds⟩ | ⟨asked, operand, operator, compared, same⟩
  · cases binds
  · obtain ⟨rfl, rfl, rfl⟩ := Change.compare.inj same
    exact ⟨comparison, _, operator, extension.operand compared, rfl⟩

/-- What the larger recognizer refuses the smaller one refuses too, be it for another reason: a
raw value with a number in it need not be one as a whole. -/
theorem refuses {text : List Char} {reason : SkipReason} (refused : larger.Refuses text reason) :
    ∃ cause, smaller.Refuses text cause := by
  have unrecognized : ∀ raw, larger.isNumeric raw = false → smaller.isNumeric raw = false := by
    intro raw missed
    refine Bool.eq_false_iff.mpr fun numeric => ?_
    rw [extension.numeric raw numeric] at missed
    cases missed
  cases reason with
  | blank => exact ⟨.blank, refused⟩
  | noOperator => exact ⟨.noOperator, refused⟩
  | nonNumericOperand comparison =>
    obtain ⟨ordering, term, parsed, operator, missed⟩ := refused
    exact ⟨.nonNumericOperand comparison, ordering, term, parsed, operator, unrecognized _ missed⟩
  | malformedNumber comparison =>
    obtain ⟨ordering, term, parsed, operator, -, unread⟩ := refused
    cases numeric : smaller.isNumeric term.raw with
    | false => exact ⟨.nonNumericOperand comparison, ordering, term, parsed, operator, numeric⟩
    | true => exact ⟨.malformedNumber comparison, ordering, term, parsed, operator, numeric, unread⟩

/-- The positions that the larger recognizer reports are among those that the smaller one
reports. -/
theorem positions_subset (search : List Char) :
    (larger.report search).skipped.map Skipped.position ⊆
      (smaller.report search).skipped.map Skipped.position := by
  intro position listed
  obtain ⟨⟨_, text, reason⟩, member, rfl⟩ := List.mem_map.mp listed
  obtain ⟨here, refused⟩ := mem_skipped_iff.mp member
  obtain ⟨cause, refusedToo⟩ := extension.refuses (interpret_eq_error_iff.mp refused)
  exact List.mem_map.mpr
    ⟨_, mem_skipped_iff.mpr ⟨here, interpret_eq_error_iff.mpr refusedToo⟩, rfl⟩

end Extends

end Recognizer

/-! ## The ways of matching -/

/-- What matches as a whole matches anywhere, and no boolean word reads as a number. -/
theorem Matching.anywhere_extends_whole :
    Matching.anywhere.recognizer.Extends Matching.whole.recognizer where
  numeric _ := isNumeric_of_whole
  boolean _ _ := boolean?_of_whole
  unread raw b word := by
    rw [boolean?_whole_iff.mp word]
    exact finite?_booleanWord b

/-- Matching anywhere only adds to matching as a whole. A raw value that is a number or a boolean
as a whole is the same one anywhere. In a search string every position that is skipped under
matching anywhere is skipped under matching as a whole, and a comparison that is given a number
under matching as a whole is given the same number under matching anywhere. -/
theorem whole_matches_kept :
    (∀ raw x, Matching.whole.infer raw = .number x → Matching.anywhere.infer raw = .number x) ∧
      (∀ raw b, Matching.whole.infer raw = .boolean b → Matching.anywhere.infer raw = .boolean b) ∧
      ∀ search,
        (report .anywhere search).skipped.map Skipped.position ⊆
            (report .whole search).skipped.map Skipped.position ∧
          ∀ text ∈ terms search, ∀ field comparison x,
            interpret .whole text = .ok (.compare field comparison (.number x)) →
              interpret .anywhere text = .ok (.compare field comparison (.number x)) := by
  have extension := Matching.anywhere_extends_whole
  refine ⟨fun raw x number => ?_, fun raw b boolean => ?_, fun search => ?_⟩
  · exact (extension.infer (number.trans_ne nofun)).trans number
  · exact (extension.infer (boolean.trans_ne nofun)).trans boolean
  · constructor
    · exact extension.positions_subset search
    · intro text _ field comparison x read
      exact extension.interpret_compare read

/-- A number, a boolean and a comparison with a number. -/
theorem whole_matches_kept_at_terms :
    (Matching.whole.infer ['1', '.', '5'] = .number 1.5 ∧
        Matching.anywhere.infer ['1', '.', '5'] = .number 1.5) ∧
      (Matching.whole.infer ['t', 'r', 'u', 'e'] = .boolean true ∧
        Matching.anywhere.infer ['t', 'r', 'u', 'e'] = .boolean true) ∧
      "b>=1.5".toList ∈ terms "a>x b>=1.5".toList ∧
        interpret .whole "b>=1.5".toList = .ok (.compare "b" .gte (.number 1.5)) ∧
        interpret .anywhere "b>=1.5".toList = .ok (.compare "b" .gte (.number 1.5)) := by
  have one : Digits ['1'] := .singleton (Text.isDecimalDigit_digitChar (n := 1) (by decide))
  have five : Digits ['5'] := .singleton (Text.isDecimalDigit_digitChar (n := 5) (by decide))
  have numeric : Matching.whole.isNumeric ['1', '.', '5'] = true :=
    Matching.isNumeric_whole_iff.mpr <|
      .inl ⟨['1'], ['.', '5'], rfl, one, .inr ⟨['5'], rfl, five⟩⟩
  have finite : finite? ['1', '.', '5'] = some 1.5 := rfl
  have number : Matching.whole.infer ['1', '.', '5'] = .number 1.5 :=
    Recognizer.infer_eq_number (Recognizer.number?_eq_some numeric finite)
  have boolean : Matching.whole.infer ['t', 'r', 'u', 'e'] = .boolean true :=
    Recognizer.infer_eq_boolean (finite?_booleanWord true)
      (Matching.boolean?_whole_iff (b := true).mpr rfl)
  have compared : interpret .whole "b>=1.5".toList = .ok (.compare "b" .gte (.number 1.5)) := by
    have parsed : Term.parse? "b>=1.5".toList = some ⟨['b'], .compare .gte, ['1', '.', '5']⟩ := by
      decide
    have operand : Matching.whole.recognizer.operand .gte ['1', '.', '5'] = .ok (.number 1.5) := by
      simp only [Recognizer.operand, Matching.recognizer, numeric, if_true, finite]
    simp only [interpret, Recognizer.interpret, parsed, Recognizer.change, operand]
    rfl
  have listed : "b>=1.5".toList ∈ terms "a>x b>=1.5".toList := by decide
  obtain ⟨numbers, booleans, searches⟩ := whole_matches_kept
  exact ⟨⟨number, numbers _ _ number⟩, ⟨boolean, booleans _ _ boolean⟩, listed, compared,
    (searches "a>x b>=1.5".toList).2 _ listed _ _ _ compared⟩

end DocumentGateway.Search

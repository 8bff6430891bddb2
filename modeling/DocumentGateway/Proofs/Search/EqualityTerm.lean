import DocumentGateway.Proofs.Search.ExpressionText
import DocumentGateway.Proofs.Search.Extension
import DocumentGateway.Proofs.Text.Cut

/-!
# Terms that ask for a value

A term with the operator of equality holds its field to the typed value of what is written
behind the operator. The same raw value can be typed in two ways. What it is as a whole it is
anywhere too, so a number and a boolean have one type in both ways; but what is text as a
whole may hold a number or a boolean somewhere. In a collection stands what is read of the
stored text of a value, and that is not the value itself if it is a floating-point number
that its text is not read as.
-/
namespace DocumentGateway

/-- A path without a dot leads to a member of the document. -/
theorem Json.resolve_undotted (document : Document) {name : String}
    (undotted : '.' ∉ name.toList) : Json.resolve document name = Keyed.get? name document := by
  have single : Json.segments name = [name] := by
    simp [Json.segments, Text.split, Text.pieces_eq_singleton undotted]
  rw [Json.resolve, single, Json.follow, Json.step]
  cases Keyed.get? name document <;> rfl

namespace Search

/-! ## Types of raw values -/

/-- What is a number or a boolean as a whole is the same in the other way. -/
theorem Matching.infer_eq_whole (matching : Matching) {raw : List Char}
    (typed : Matching.whole.infer raw ≠ .text raw) :
    matching.infer raw = Matching.whole.infer raw := by
  cases matching with
  | whole => rfl
  | anywhere => exact Matching.anywhere_extends_whole.infer typed

/-! ## Typed values that were stored -/

/-- What is read of the JSON form of a proper scalar is its value exactly if a floating-point
number in it reads back. -/
theorem Scalar.isValue_reread_iff {scalar : Scalar} (proper : scalar.Proper) {shown : Json}
    (read : scalar.toJson.reread? = some shown) :
    scalar.isValue shown = true ↔ ∀ x ∈ scalar.toJson.reals, Decimal.ReadsBack x := by
  rw [← Json.reread?_eq_self_iff (scalar.toJson_regular 0), read, Option.some.injEq]
  cases scalar with
  | boolean b =>
    obtain rfl : Json.bool b = shown := Option.some.inj read
    simp [toJson, isValue]
  | text raw =>
    obtain rfl : Json.string (String.ofList raw) = shown := Option.some.inj read
    simp [toJson, isValue]
  | number x =>
    have finite : Decimal.isFinite x = true := proper
    cases whole : Decimal.exactInteger? x with
    | some n =>
      have form : Number.ofFloat? x = some (.integer n) := by rw [Number.ofFloat?, whole]
      have placed : (Number.integer n).position = Decimal.position x :=
        Decimal.position_ofInt_exactInteger whole
      simp only [toJson, Json.ofFloat, form, Json.reread?,
        Number.reread?_integer (valid_of_ofFloat? form), Option.map_some, Option.some.injEq] at read ⊢
      subst read
      simpa [isValue] using placed
    | none =>
      have form : Number.ofFloat? x = some (.real x) := by rw [Number.ofFloat?, whole, if_pos finite]
      simp only [toJson, Json.ofFloat, form, Json.reread?] at read ⊢
      obtain ⟨number, numberRead, rfl⟩ := Option.map_eq_some_iff.mp read
      obtain ⟨y, rfl⟩ := Number.reread?_real finite numberRead
      have samePlace : Decimal.position y = Decimal.position x ↔ y = x :=
        ⟨fun same => (Decimal.eq_of_position same.symm (Decimal.magnitude_ne_zero finite whole)).symm,
          congrArg Decimal.position⟩
      simpa [isValue, Number.position, Number.toFloat] using samePlace

/-- A number that does not read back. -/
example : (Number.real 9.036899553698719).reread?.map Number.position ≠
    some (Number.real 9.036899553698719).position := by
  decide +kernel

/-- The JSON form of a proper scalar is a value. -/
theorem Scalar.toJson_ne_null {scalar : Scalar} (proper : scalar.Proper) : scalar.toJson ≠ .null := by
  intro null
  have notNull := scalar.toJson_meaning proper
  rw [null] at notNull
  simp [Json.same] at notNull

/-- What is read of the form that a raw value has as a whole is what the raw value is taken for
exactly if a floating-point number in it reads back, and a text is taken for one. -/
theorem Matching.isValue_infer_iff (matching : Matching) {raw : List Char} {shown : Json}
    (read : (Matching.whole.infer raw).toJson.reread? = some shown) :
    (matching.infer raw).isValue shown = true ↔
      (∀ x ∈ (Matching.whole.infer raw).toJson.reals, Decimal.ReadsBack x) ∧
        (Matching.whole.infer raw = .text raw → matching.infer raw = .text raw) := by
  by_cases text : Matching.whole.infer raw = .text raw
  · rw [text] at read ⊢
    obtain rfl : Json.string (String.ofList raw) = shown := Option.some.inj read
    have noReals : (Scalar.text raw).toJson.reals = [] := by simp [Scalar.toJson, Json.reals]
    rw [noReals]
    cases matching.infer raw with
    | number x => simp [Scalar.isValue]
    | boolean b => simp [Scalar.isValue]
    | text other =>
      have same : String.ofList raw = String.ofList other ↔ other = raw :=
        ⟨fun equal => (String.ofList_injective equal).symm, fun equal => equal ▸ rfl⟩
      simp [Scalar.isValue, same]
  · have proper : (Matching.whole.infer raw).Proper := Matching.whole.recognizer.infer_proper raw
    rw [matching.infer_eq_whole text, Scalar.isValue_reread_iff proper read]
    exact (and_iff_left fun same => absurd same text).symm

/-! ## Searches of one term -/

/-- A search string that is one term of equality compiles to its one constraint. -/
theorem compile_equal (matching : Matching) {text field raw : List Char} (spaceless : ' ' ∉ text)
    (parsed : Term.parse? text = some ⟨field, .equal, raw⟩) :
    compile matching text = [(String.ofList field, .literal (matching.infer raw))] := by
  have nonempty : text.isEmpty = false := by
    cases text with
    | nil => cases parsed
    | cons c rest => rfl
  have cut : readTerms text = [text] := by
    simp [readTerms, nonempty, terms, Text.pieces_eq_singleton spaceless]
  have read : matching.recognizer.interpret text =
      .ok (.bind (String.ofList field) (matching.infer raw)) :=
    Recognizer.interpret_eq_ok_iff.mpr
      ⟨_, parsed, Recognizer.change_eq_ok_iff.mpr (.inl ⟨rfl, rfl⟩)⟩
  simp [compile, Recognizer.compile, cut, read, Except.toOption, Expression.apply, Keyed.insert]

/-- What is read of the JSON form of a scalar has no items that could pass in its place. -/
theorem passes_reread (test : Json → Bool) {scalar : Scalar} {shown : Json}
    (read : scalar.toJson.reread? = some shown) : passes test (some shown) = test shown := by
  have atomic := scalar.toJson_atomic.2
  cases shown with
  | array items =>
    cases value : scalar.toJson <;> simp [value, Json.reread?, Json.items?] at read atomic
  | _ => rfl

/-- A document satisfies a constraint to one value exactly if the member of this name, or an
item of it, is the value. -/
theorem isSatisfied_literal {field : String} (undotted : '.' ∉ field.toList) (value : Scalar)
    (document : Document) :
    Expression.isSatisfied [(field, .literal value)] document =
      passes value.isValue (Keyed.get? field document) := by
  simp [Expression.isSatisfied, Constraint.isSatisfied, Json.resolve_undotted document undotted]

end Search

end DocumentGateway

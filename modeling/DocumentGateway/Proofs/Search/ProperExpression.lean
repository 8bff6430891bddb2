import DocumentGateway.Proofs.Keyed
import DocumentGateway.Proofs.Search.Report

/-!
# Compiled expressions are proper

The numbers in a compiled expression are finite, because the compiler reads only finite
ones, and a field held to comparisons is held to at least one. Both are kept by every
change that a term can ask for, so they hold of every expression that is compiled.
-/
namespace DocumentGateway.Search

/-- A scalar that has a JSON form: every scalar but a number that is not finite. -/
def Scalar.Proper : Scalar → Prop
  | .number x => Decimal.isFinite x = true
  | .boolean _ => True
  | .text _ => True

/-- A constraint with proper scalars, and with at least one comparison if it has any. -/
def Constraint.Proper : Constraint → Prop
  | .literal value => value.Proper
  | .comparisons operands => operands ≠ [] ∧ ∀ operand ∈ operands, operand.2.Proper

/-- An expression of proper constraints. -/
def Expression.Proper (expression : Expression) : Prop :=
  ∀ held ∈ expression, held.2.Proper

/-- A change that brings a proper scalar. -/
def Change.Proper : Change → Prop
  | .bind _ value => value.Proper
  | .compare _ _ operand => operand.Proper

/-- Only finite numbers are read of raw values. -/
theorem isFinite_of_finite? {raw : List Char} {x : Float} (read : finite? raw = some x) :
    Decimal.isFinite x = true :=
  (Option.filter_eq_some_iff.mp read).2

namespace Recognizer

variable {recognizer : Recognizer}

/-- Whatever is taken for a number, the number is finite. -/
theorem isFinite_of_number? {raw : List Char} {x : Float}
    (read : recognizer.number? raw = some x) : Decimal.isFinite x = true :=
  isFinite_of_finite? (Option.ite_none_right_eq_some.mp read).2

/-- The type of a raw value is inferred to be a proper scalar. -/
theorem infer_proper (recognizer : Recognizer) (raw : List Char) :
    (recognizer.infer raw).Proper := by
  unfold infer
  split
  · rename_i x read
    exact isFinite_of_number? read
  · split <;> trivial

/-- The operand of a comparison is a proper scalar. -/
theorem operand_proper {comparison : Comparison} {raw : List Char} {scalar : Scalar}
    (read : recognizer.operand comparison raw = .ok scalar) : scalar.Proper := by
  unfold operand at read
  split at read
  · split at read
    · rename_i x found
      obtain rfl := Except.ok.inj read
      exact isFinite_of_number? found
    · obtain rfl := Except.ok.inj read
      trivial
  · split at read
    · split at read
      · rename_i x found
        obtain rfl := Except.ok.inj read
        exact isFinite_of_finite? found
      · cases read
    · cases read

/-- The change of a term brings a proper scalar. -/
theorem interpret_proper {text : List Char} {change : Change}
    (read : recognizer.interpret text = .ok change) : change.Proper := by
  obtain ⟨term, -, made⟩ := interpret_eq_ok_iff.mp read
  rcases change_eq_ok_iff.mp made with ⟨-, rfl⟩ | ⟨_, _, -, outcome, rfl⟩
  · exact recognizer.infer_proper term.raw
  · exact operand_proper outcome

end Recognizer

/-- A constraint stays proper when a comparison joins it. -/
theorem Constraint.merge_proper {held : Option Constraint} {comparison : Comparison}
    {operand : Scalar} (heldProper : ∀ constraint, held = some constraint → constraint.Proper)
    (operandProper : operand.Proper) : (Constraint.merge held comparison operand).Proper := by
  unfold Constraint.merge
  split
  · rename_i operands
    obtain ⟨-, operandsProper⟩ := heldProper _ rfl
    refine ⟨?_, fun entry member => ?_⟩
    · cases operands with
      | nil => simp [Keyed.insert]
      | cons first rest =>
        rw [Keyed.insert]
        split <;> simp
    · rcases Keyed.mem_insert member with rfl | earlier
      · exact operandProper
      · exact operandsProper entry earlier
  · refine ⟨by simp, fun entry member => ?_⟩
    obtain rfl := List.mem_singleton.mp member
    exact operandProper

/-- An expression stays proper under a change that brings a proper scalar. -/
theorem Expression.apply_proper {expression : Expression} {change : Change}
    (proper : expression.Proper) (changeProper : change.Proper) :
    (expression.apply change).Proper := by
  intro entry member
  cases change with
  | bind field value =>
    rcases Keyed.mem_insert member with rfl | earlier
    · exact changeProper
    · exact proper entry earlier
  | compare field comparison operand =>
    rcases Keyed.mem_insert member with rfl | earlier
    · exact Constraint.merge_proper
        (fun constraint found => proper (field, constraint) (Keyed.mem_of_get? found)) changeProper
    · exact proper entry earlier

/-- Every compiled expression is proper, whatever recognizes the types. The induction is on
the changes still to be made. -/
theorem Recognizer.compile_proper (recognizer : Recognizer) (search : List Char) :
    (recognizer.compile search).Proper := by
  have applied : ∀ (changes : List Change) (expression : Expression), expression.Proper →
      (∀ change ∈ changes, change.Proper) → (changes.foldl Expression.apply expression).Proper := by
    intro changes
    induction changes with
    | nil => exact fun expression proper _ => proper
    | cons change rest inductionHypothesis =>
      intro expression proper allProper
      obtain ⟨changeProper, restProper⟩ := List.forall_mem_cons.mp allProper
      exact inductionHypothesis _ (Expression.apply_proper proper changeProper) restProper
  refine applied _ [] (fun entry member => by cases member) fun change member => ?_
  obtain ⟨text, -, read⟩ := List.mem_filterMap.mp member
  exact interpret_proper (toOption_eq_some_iff.mp read)

/-- What a search string compiles to, if there is one, is proper. -/
theorem compileOptional_proper (matching : Matching) (search : Option String) :
    (compileOptional matching search).Proper := by
  cases search with
  | none => intro entry member; cases member
  | some text => exact matching.recognizer.compile_proper text.toList

end DocumentGateway.Search

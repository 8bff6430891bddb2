import DocumentGateway.Proofs.Keyed
import DocumentGateway.Proofs.Search.Report
import Mathlib.Data.List.DropRight

/-!
# Search strings merged field by field

A search string is compiled from left to right, every term changing the expression that the
terms before it made. What comes out is said here without this walk: a field is held to
what its own terms ask for, and only the last of them that binds a value and the
comparisons after it count. The fields stand in the order in which accepted terms first
name them, and so do the comparisons of a field.

The terms that count are those that the report on the same search string does not skip.
-/
namespace DocumentGateway.Search

/-! ## First occurrences -/

/-- The elements of a list in the order in which they first occur, each of them once. -/
def firstOccurrences {α : Type} [DecidableEq α] : List α → List α
  | [] => []
  | element :: rest => element :: (firstOccurrences rest).filter (· ≠ element)

section

variable {α : Type} [DecidableEq α]

/-- First occurrences differ from each other. -/
theorem firstOccurrences_nodup (elements : List α) : (firstOccurrences elements).Nodup := by
  induction elements with
  | nil => exact List.nodup_nil
  | cons first rest inductionHypothesis =>
    have absent : first ∉ (firstOccurrences rest).filter (· ≠ first) := by simp
    exact List.nodup_cons.mpr ⟨absent, inductionHypothesis.filter _⟩

/-- Every element occurs for a first time. -/
theorem mem_firstOccurrences {element : α} {elements : List α} :
    element ∈ firstOccurrences elements ↔ element ∈ elements := by
  induction elements with
  | nil => rfl
  | cons first rest inductionHypothesis =>
    simp only [firstOccurrences, List.mem_cons, List.mem_filter, inductionHypothesis]
    by_cases same : element = first <;> simp [same]

/-- One more element comes to the end, unless it has occurred before. -/
theorem firstOccurrences_concat (elements : List α) (last : α) :
    firstOccurrences (elements ++ [last]) =
      if last ∈ firstOccurrences elements then firstOccurrences elements
      else firstOccurrences elements ++ [last] := by
  induction elements with
  | nil => simp [firstOccurrences]
  | cons first rest inductionHypothesis =>
    rw [List.cons_append, firstOccurrences, inductionHypothesis, firstOccurrences]
    by_cases again : last = first
    · subst again
      by_cases earlier : last ∈ firstOccurrences rest <;> simp [earlier]
    · by_cases earlier : last ∈ firstOccurrences rest <;> simp [earlier, again]

end

/-! ## Accepted terms -/

/-- The terms of a search string that its report does not skip, taken apart, in order. -/
def acceptedTerms (recognizer : Recognizer) (search : List Char) : List Term :=
  ((readTerms search).zipIdx.filter fun (_, position) =>
    (recognizer.report search).skipped.all fun entry => entry.position ≠ position).filterMap
      fun (text, _) => Term.parse? text

/-- The accepted terms about one field. -/
def termsOn (recognizer : Recognizer) (search : List Char) (field : String) : List Term :=
  (acceptedTerms recognizer search).filter fun term => term.fieldName = field

/-- The term that a text is accepted as. -/
def accept? (recognizer : Recognizer) (text : List Char) : Option Term :=
  if (recognizer.interpret text).isOk then Term.parse? text else none

/-- The accepted terms are those of the texts that can be interpreted. -/
theorem acceptedTerms_eq (recognizer : Recognizer) (search : List Char) :
    acceptedTerms recognizer search = (readTerms search).filterMap (accept? recognizer) := by
  have texts : (readTerms search).zipIdx.map Prod.fst = readTerms search := by simp
  rw [acceptedTerms, Recognizer.filter_unlisted, List.filterMap_filter]
  conv => rhs; rw [← texts, List.filterMap_map]
  rfl

/-- An accepted term makes the change that its text is interpreted as. -/
theorem toOption_interpret (recognizer : Recognizer) (text : List Char) :
    (recognizer.interpret text).toOption =
      (accept? recognizer text).bind fun term => (recognizer.change term).toOption := by
  unfold accept?
  cases outcome : recognizer.interpret text with
  | error reason => rfl
  | ok change =>
    obtain ⟨term, parsed, made⟩ := Recognizer.interpret_eq_ok_iff.mp outcome
    have interpreted : (Except.ok change : Except SkipReason Change).isOk = true := rfl
    rw [parsed, if_pos interpreted, Option.bind_some, made]

/-- Every accepted term makes a change. -/
theorem change_of_accepted {recognizer : Recognizer} {search : List Char} {term : Term}
    (accepted : term ∈ acceptedTerms recognizer search) :
    ∃ change, recognizer.change term = .ok change := by
  rw [acceptedTerms_eq] at accepted
  obtain ⟨text, -, found⟩ := List.mem_filterMap.mp accepted
  obtain ⟨interpreted, parsed⟩ := Option.ite_none_right_eq_some.mp found
  cases outcome : recognizer.interpret text with
  | error reason => rw [outcome] at interpreted; cases interpreted
  | ok change =>
    obtain ⟨other, parsedToo, made⟩ := Recognizer.interpret_eq_ok_iff.mp outcome
    obtain rfl : other = term := Option.some.inj (parsedToo.symm.trans parsed)
    exact ⟨change, made⟩

/-- The expression that accepted terms make, one after another. -/
def build (recognizer : Recognizer) (terms : List Term) : Expression :=
  (terms.filterMap fun term => (recognizer.change term).toOption).foldl Expression.apply []

/-- A search string compiles to the expression that its accepted terms make. -/
theorem compile_eq_build (recognizer : Recognizer) (search : List Char) :
    recognizer.compile search = build recognizer (acceptedTerms recognizer search) := by
  have changes : (fun text => (recognizer.interpret text).toOption) =
      fun text => (accept? recognizer text).bind fun term => (recognizer.change term).toOption :=
    funext (toOption_interpret recognizer)
  rw [build, acceptedTerms_eq, List.filterMap_filterMap, ← changes]
  rfl

/-- A last term changes what the terms before it have made. -/
theorem build_concat {recognizer : Recognizer} (terms : List Term) {last : Term} {change : Change}
    (made : recognizer.change last = .ok change) :
    build recognizer (terms ++ [last]) = (build recognizer terms).apply change := by
  simp [build, made, Except.toOption]

/-! ## The merge of one field -/

/-- The terms after the last one that binds a value: the comparisons that count. -/
def lastComparisons (own : List Term) : List Term :=
  own.rtakeWhile fun term => term.operator ≠ .equal

/-- Operands merged from a run of comparing terms: the comparisons in the order in which
they first occur, and under each of them the value of its last occurrence. -/
structure MergedOperands (recognizer : Recognizer) (run : List Term)
    (operands : List (Comparison × Scalar)) : Prop where
  order : Keyed.keys operands =
    firstOccurrences (run.filterMap fun term => term.operator.comparison?)
  value : ∀ comparison, Keyed.get? comparison operands =
    (run.filter fun term => term.operator = .compare comparison).getLast?.bind fun term =>
      (recognizer.operand comparison term.raw).toOption

/-- What the terms about one field hold it to. Without terms it is held to nothing, a last
term that binds a value counts alone, and else the comparisons after the last such term
are merged. -/
def Merged (recognizer : Recognizer) (own : List Term) (held : Option Constraint) : Prop :=
  match own.getLast? with
  | none => held = none
  | some last =>
    match last.operator with
    | .equal => held = some (.literal (recognizer.infer last.raw))
    | .compare _ => ∃ operands, held = some (.comparisons operands) ∧
        MergedOperands recognizer (lastComparisons own) operands

/-- The comparisons that a field is held to. -/
def heldOperands : Option Constraint → List (Comparison × Scalar)
  | some (.comparisons operands) => operands
  | _ => []

/-- One more comparison joins those held, and there are none beside a bound value. -/
theorem Constraint.merge_eq (held : Option Constraint) (comparison : Comparison)
    (operand : Scalar) :
    Constraint.merge held comparison operand =
      .comparisons (Keyed.insert comparison operand (heldOperands held)) := by
  cases held with
  | none => rfl
  | some constraint => cases constraint <;> rfl

namespace MergedOperands

variable {recognizer : Recognizer} {run : List Term} {operands : List (Comparison × Scalar)}

/-- Where there are no terms there are no operands. -/
theorem nil : MergedOperands recognizer [] [] :=
  ⟨rfl, fun _ => rfl⟩

/-- A run with one more comparison is merged by storing the operand of the comparison. -/
theorem concat (merged : MergedOperands recognizer run operands) {last : Term}
    {comparison : Comparison} {operand : Scalar} (compares : last.operator = .compare comparison)
    (read : recognizer.operand comparison last.raw = .ok operand) :
    MergedOperands recognizer (run ++ [last]) (Keyed.insert comparison operand operands) where
  order := by
    have asked : (run ++ [last]).filterMap (fun term => term.operator.comparison?) =
        run.filterMap (fun term => term.operator.comparison?) ++ [comparison] := by
      simp [compares, Operator.comparison?]
    rw [Keyed.keys_insert, merged.order, asked, firstOccurrences_concat]
  value := by
    intro other
    rw [Keyed.get?_insert, List.filter_append]
    by_cases same : comparison = other
    · subst same
      simp [compares, read, Except.toOption]
    · simp [compares, same, merged.value other]

/-- A run is merged in one way only. -/
theorem unique {others : List (Comparison × Scalar)}
    (merged : MergedOperands recognizer run operands)
    (also : MergedOperands recognizer run others) :
    operands = others := by
  have distinct : (Keyed.keys operands).Nodup := merged.order ▸ firstOccurrences_nodup _
  exact Keyed.ext_get? distinct (merged.order.trans also.order.symm) fun comparison =>
    (merged.value comparison).trans (also.value comparison).symm

end MergedOperands

namespace Merged

variable {recognizer : Recognizer} {own : List Term} {held : Option Constraint}

/-- The comparisons that a field is held to are those after its last bound value. If it is
held to no comparisons, there are no such terms. -/
theorem operands (merged : Merged recognizer own held) :
    MergedOperands recognizer (lastComparisons own) (heldOperands held) := by
  unfold Merged at merged
  split at merged
  · rename_i noTerms
    obtain rfl := List.getLast?_eq_none_iff.mp noTerms
    subst merged
    exact .nil
  · rename_i last isLast
    obtain ⟨before, rfl⟩ := List.getLast?_eq_some_iff.mp isLast
    split at merged
    · rename_i binds
      subst merged
      have noRun : lastComparisons (before ++ [last]) = [] := by
        simp [lastComparisons, binds]
      rw [noRun]
      exact .nil
    · obtain ⟨operands, rfl, mergedOperands⟩ := merged
      exact mergedOperands

/-- The terms about a field hold it to one thing only. -/
theorem unique {other : Option Constraint} (merged : Merged recognizer own held)
    (also : Merged recognizer own other) : held = other := by
  cases isLast : own.getLast? with
  | none =>
    simp only [Merged, isLast] at merged also
    exact merged.trans also.symm
  | some last =>
    cases asks : last.operator with
    | equal =>
      simp only [Merged, isLast, asks] at merged also
      exact merged.trans also.symm
    | compare comparison =>
      simp only [Merged, isLast, asks] at merged also
      obtain ⟨operands, rfl, mergedOperands⟩ := merged
      obtain ⟨others, rfl, mergedOthers⟩ := also
      rw [mergedOperands.unique mergedOthers]

end Merged

/-! ## One more term -/

variable {recognizer : Recognizer} {expression : Expression} {term : Term} {change : Change}

/-- The change of a term stores a constraint under the field of the term. -/
theorem apply_eq_insert (expression : Expression) (made : recognizer.change term = .ok change) :
    ∃ constraint, expression.apply change = Keyed.insert term.fieldName constraint expression := by
  rcases Recognizer.change_eq_ok_iff.mp made with ⟨-, rfl⟩ | ⟨comparison, operand, -, -, rfl⟩
  · exact ⟨_, rfl⟩
  · exact ⟨_, rfl⟩

/-- After one more term about a field, the field is held to the merge of the terms about
it with this one as the last. -/
theorem merged_apply {own : List Term}
    (merged : Merged recognizer own (Keyed.get? term.fieldName expression))
    (made : recognizer.change term = .ok change) :
    Merged recognizer (own ++ [term]) (Keyed.get? term.fieldName (expression.apply change)) := by
  have isLast : (own ++ [term]).getLast? = some term := by simp
  rcases Recognizer.change_eq_ok_iff.mp made with
    ⟨binds, rfl⟩ | ⟨comparison, operand, compares, read, rfl⟩
  · unfold Merged
    rw [isLast]
    simp [binds, Expression.apply]
  · have run : lastComparisons (own ++ [term]) = lastComparisons own ++ [term] := by
      simp [lastComparisons, compares]
    unfold Merged
    rw [isLast]
    simp only [compares, Expression.apply, Keyed.get?_insert, if_true, Constraint.merge_eq, run]
    exact ⟨_, rfl, merged.operands.concat compares read⟩

/-! ## Whole search strings -/

/-- The fields of an expression that is built from terms stand in the order in which the
terms first name them. The induction takes the terms away from the end, where the last
change was made. -/
theorem keys_build {terms : List Term}
    (each : ∀ term ∈ terms, ∃ change, recognizer.change term = .ok change) :
    Keyed.keys (build recognizer terms) = firstOccurrences (terms.map Term.fieldName) := by
  induction terms using List.reverseRecOn with
  | nil => rfl
  | append_singleton terms last inductionHypothesis =>
    have before := inductionHypothesis fun term member => each term (by simp [member])
    obtain ⟨change, made⟩ := each last (by simp)
    obtain ⟨constraint, stored⟩ := apply_eq_insert (build recognizer terms) made
    rw [build_concat terms made, stored, Keyed.keys_insert, before, List.map_append,
      List.map_singleton, firstOccurrences_concat]

/-- Every field of an expression that is built from terms is held to the merge of the terms
about it. A term about another field is passed over by both. -/
theorem merged_build {terms : List Term}
    (each : ∀ term ∈ terms, ∃ change, recognizer.change term = .ok change) (field : String) :
    Merged recognizer (terms.filter fun term => term.fieldName = field)
      (Keyed.get? field (build recognizer terms)) := by
  induction terms using List.reverseRecOn with
  | nil => rfl
  | append_singleton terms last inductionHypothesis =>
    have before := inductionHypothesis fun term member => each term (by simp [member])
    obtain ⟨change, made⟩ := each last (by simp)
    rw [build_concat terms made, List.filter_append]
    by_cases about : last.fieldName = field
    · subst about
      simpa using merged_apply before made
    · obtain ⟨constraint, stored⟩ := apply_eq_insert (build recognizer terms) made
      simpa [stored, about] using before

/-- The fields of a compiled expression stand in the order of their first accepted terms. -/
theorem keys_compile (recognizer : Recognizer) (search : List Char) :
    Keyed.keys (recognizer.compile search) =
      firstOccurrences ((acceptedTerms recognizer search).map Term.fieldName) := by
  rw [compile_eq_build]
  exact keys_build fun term accepted => change_of_accepted accepted

/-- Every field of a compiled expression is held to the merge of the accepted terms about it. -/
theorem merged_compile (recognizer : Recognizer) (search : List Char) (field : String) :
    Merged recognizer (termsOn recognizer search field)
      (Keyed.get? field (recognizer.compile search)) := by
  rw [compile_eq_build]
  exact merged_build (fun term accepted => change_of_accepted accepted) field

/-- A search string compiles to the merge of its accepted terms, whatever recognizes types: the
fields in the order of their first accepted term, each held to what the terms about it ask for. So
strings with the same accepted terms about a field hold it to the same, whatever else is in
them. -/
theorem compile_merges_terms (recognizer : Recognizer) (search : List Char) :
    Keyed.keys (recognizer.compile search) =
        firstOccurrences ((acceptedTerms recognizer search).map Term.fieldName) ∧
      (∀ field, Merged recognizer (termsOn recognizer search field)
        (Keyed.get? field (recognizer.compile search))) ∧
      ∀ other field, termsOn recognizer other field = termsOn recognizer search field →
        Keyed.get? field (recognizer.compile other) =
          Keyed.get? field (recognizer.compile search) := by
  refine ⟨keys_compile recognizer search, merged_compile recognizer search, ?_⟩
  intro other field sameTerms
  have mergedOther := merged_compile recognizer other field
  rw [sameTerms] at mergedOther
  exact mergedOther.unique (merged_compile recognizer search field)

end DocumentGateway.Search

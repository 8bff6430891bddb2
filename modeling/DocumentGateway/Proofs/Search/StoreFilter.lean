import DocumentGateway.Proofs.Decimal.WholeNumber
import DocumentGateway.Proofs.Filter.Matching
import DocumentGateway.Proofs.Search.ProperExpression
import DocumentGateway.Proofs.Search.Satisfaction
import DocumentGateway.Service.Basic

/-!
# The store's filter of a search expression

An expression is written as a filter document and the store reads the filter from it.
The document survives this: scalars keep their meaning as JSON values, an object of
comparisons is recognised as one of operators, and every clause of the filter matches
exactly the documents that satisfy the constraint it comes from. Only a field whose name
begins with the mark of operators is taken for one, and then the filter is refused.
-/
namespace DocumentGateway.Search

/-! ## Scalars as JSON values -/

/-- A proper scalar keeps its meaning and its order as a JSON value. -/
theorem Scalar.toJson_meaning {scalar : Scalar} (proper : scalar.Proper) :
    (∀ value : Json, value.same scalar.toJson = scalar.isValue value) ∧
      (∀ value : Json, value.compareSameKind scalar.toJson = scalar.order? value) ∧
      scalar.toJson.same .null = false := by
  cases scalar with
  | number x =>
    obtain ⟨number, shown, placed⟩ := Number.position_ofFloat? proper
    have json : (Scalar.number x).toJson = .number number := by
      simp [Scalar.toJson, Json.ofFloat, shown]
    rw [json]
    refine ⟨fun value => ?_, fun value => ?_, by simp [Json.same]⟩
    · cases value <;> simp [Json.same, isValue, placed]
    · cases value <;> simp [Json.compareSameKind, order?, placed]
  | boolean b =>
    refine ⟨fun value => ?_, fun value => ?_, by simp [toJson, Json.same]⟩
    · cases value <;> simp [toJson, Json.same, isValue]
    · cases value <;> simp [toJson, Json.compareSameKind, order?]
  | text raw =>
    refine ⟨fun value => ?_, fun value => ?_, by simp [toJson, Json.same]⟩
    · cases value <;> simp [toJson, Json.same, isValue]
    · cases value <;> simp [toJson, Json.compareSameKind, order?]

/-- To equal or contain the JSON form of a proper scalar is to pass for the scalar. -/
theorem equalsOrContains_toJson {scalar : Scalar} (proper : scalar.Proper)
    (target : Option Json) :
    equalsOrContains target scalar.toJson = passes scalar.isValue target := by
  obtain ⟨same, -, notNull⟩ := scalar.toJson_meaning proper
  cases target with
  | none => exact notNull
  | some value => simp only [equalsOrContains, same, candidates_any]

/-- A comparison with the JSON form of a scalar is a comparison with the scalar. -/
theorem anyOrdered_toJson {scalar : Scalar} (proper : scalar.Proper) (relation : Relation)
    (target : Option Json) :
    anyOrdered relation target scalar.toJson =
      passes (fun value => (scalar.order? value).any relation.accepts) target := by
  obtain ⟨-, ordered, -⟩ := scalar.toJson_meaning proper
  simp only [anyOrdered, ordered, candidates_any]

/-! ## Comparisons as operators -/

/-- The condition of a comparison. -/
def Comparison.predicate (comparison : Comparison) (operand : Json) : Predicate :=
  match comparison with
  | .gte => .ordered .atLeast operand
  | .lte => .ordered .atMost operand
  | .gt => .ordered .greater operand
  | .lt => .ordered .less operand
  | .ne => .different operand

/-- The condition of a comparison is satisfied exactly if the comparison is. -/
theorem Comparison.predicate_matches (comparison : Comparison) {operand : Scalar}
    (proper : operand.Proper) (target : Option Json) :
    (comparison.predicate operand.toJson).matches target =
      comparison.isSatisfied operand target := by
  cases comparison with
  | ne => simp only [predicate, Predicate.matches, equalsOrContains_toJson proper, isSatisfied]
  | _ =>
    simp only [predicate, Predicate.matches, anyOrdered_toJson proper, isSatisfied]
    rfl

/-- The members of an object of comparisons, as the store reads them. -/
def operatorMembers (operands : List (Comparison × Scalar)) : Document :=
  operands.map fun (comparison, operand) => (storeMark ++ comparison.tag, operand.toJson)

/-- The member of a comparison is read as its condition. -/
theorem readOperators_cons (depth : Nat) (path : String) (options : Option String)
    (comparison : Comparison) (operand : Json) (rest : Document) :
    readOperators depth path options ((storeMark ++ comparison.tag, operand) :: rest) =
      (readOperators depth path options rest).map (comparison.predicate operand :: ·) := by
  cases comparison with
  | gte =>
    rw [show storeMark ++ Comparison.gte.tag = "$gte" from rfl, readOperators]
    rfl
  | lte =>
    rw [show storeMark ++ Comparison.lte.tag = "$lte" from rfl, readOperators]
    rfl
  | gt =>
    rw [show storeMark ++ Comparison.gt.tag = "$gt" from rfl, readOperators]
    rfl
  | lt =>
    rw [show storeMark ++ Comparison.lt.tag = "$lt" from rfl, readOperators]
    rfl
  | ne =>
    rw [show storeMark ++ Comparison.ne.tag = "$ne" from rfl, readOperators]
    rfl

/-- Comparisons are read back as their conditions, in their order. -/
theorem readOperators_operatorMembers (depth : Nat) (path : String) (options : Option String)
    (operands : List (Comparison × Scalar)) :
    readOperators depth path options (operatorMembers operands) =
      .ok (operands.map fun (comparison, operand) => comparison.predicate operand.toJson) := by
  induction operands with
  | nil => simp [operatorMembers, readOperators]
  | cons entry rest inductionHypothesis =>
    simp only [operatorMembers, List.map_cons] at inductionHypothesis ⊢
    rw [readOperators_cons, inductionHypothesis]
    rfl

/-- The tag of a comparison, under the mark of the store, is the key of an operator. -/
theorem isOperatorKey_tag (comparison : Comparison) :
    isOperatorKey (storeMark ++ comparison.tag) = true := by
  cases comparison <;> decide

/-- An object of comparisons is recognised as one of operators. -/
theorem shape_operatorMembers {operands : List (Comparison × Scalar)} (nonempty : operands ≠ []) :
    shape (operatorMembers operands) = .operators := by
  have marked : ∀ member ∈ operatorMembers operands, isOperatorKey member.1 = true := by
    intro member inMembers
    obtain ⟨entry, -, rfl⟩ := List.mem_map.mp inMembers
    exact isOperatorKey_tag entry.1
  have allMarked : (operatorMembers operands).all (fun member => isOperatorKey member.1) = true :=
    List.all_eq_true.mpr marked
  have notPlain : (operatorMembers operands).all (fun member => !isOperatorKey member.1) = false := by
    cases operands with
    | nil => exact absurd rfl nonempty
    | cons entry rest =>
      simp [operatorMembers, isOperatorKey_tag]
  simp [shape, allMarked, notPlain]

/-- There are no options among comparisons. -/
theorem checkOperators_operatorMembers (path : String) (operands : List (Comparison × Scalar)) :
    checkOperators 0 path (operatorMembers operands) = .ok none := by
  have noOptions : Keyed.get? "$options" (operatorMembers operands) = none := by
    cases found : Keyed.get? "$options" (operatorMembers operands) with
    | none => rfl
    | some value =>
      obtain ⟨⟨comparison, operand⟩, -, same⟩ := List.mem_map.mp (Keyed.mem_of_get? found)
      have impossible : storeMark ++ comparison.tag = "$options" := congrArg Prod.fst same
      exact absurd impossible (by cases comparison <;> decide)
  simp [checkOperators, noOptions, Filter.maxDepth]

/-! ## Expressions as filter documents -/

/-- The JSON form of a scalar has no members and no items. -/
theorem Scalar.toJson_atomic (scalar : Scalar) :
    scalar.toJson.members? = none ∧ scalar.toJson.items? = none := by
  cases scalar with
  | number x =>
    simp only [toJson, Json.ofFloat]
    split <;> exact ⟨rfl, rfl⟩
  | boolean b => exact ⟨rfl, rfl⟩
  | text raw => exact ⟨rfl, rfl⟩

/-- A value without members is read as one to be equal to. -/
theorem readCondition_atomic {value : Json} (atomic : value.members? = none) (depth : Nat)
    (path : String) : readCondition depth path value = .ok (.equal value) := by
  cases value with
  | object members => cases atomic
  | _ => rfl

/-- The condition that the store reads for a proper constraint matches exactly the values
that satisfy the constraint. -/
theorem readCondition_toJson {constraint : Constraint} (proper : constraint.Proper)
    (path : String) :
    ∃ predicate, readCondition 0 path (constraint.toJson storeMark) = .ok predicate ∧
      ∀ target, predicate.matches target = constraint.isSatisfied target := by
  cases constraint with
  | literal value =>
    refine ⟨.equal value.toJson, readCondition_atomic value.toJson_atomic.1 0 path,
      fun target => ?_⟩
    rw [Predicate.matches, equalsOrContains_toJson proper, Constraint.isSatisfied]
  | comparisons operands =>
    obtain ⟨nonempty, operandsProper⟩ := proper
    refine ⟨joinPredicates (operands.map fun (comparison, operand) =>
      comparison.predicate operand.toJson), ?_, fun target => ?_⟩
    · change readCondition 0 path (.object (operatorMembers operands)) = _
      simp only [readCondition, shape_operatorMembers nonempty, checkOperators_operatorMembers,
        readOperators_operatorMembers, bind, Except.bind]
    · rw [joinPredicates_matches, List.all_map, Constraint.isSatisfied]
      have alike : ∀ entry ∈ operands,
          (entry.1.predicate entry.2.toJson).matches target = entry.1.isSatisfied entry.2 target :=
        fun entry member => entry.1.predicate_matches (operandsProper entry member) target
      rw [Bool.eq_iff_iff, List.all_eq_true, List.all_eq_true]
      constructor
      · exact fun holds entry member => (alike entry member).symm.trans (holds entry member)
      · exact fun holds entry member => (alike entry member).trans (holds entry member)

/-- The JSON form of a constraint is no array, so it can be no list of clauses. -/
theorem Constraint.toJson_items (constraint : Constraint) (mark : String) :
    (constraint.toJson mark).items? = none := by
  cases constraint with
  | literal value => exact value.toJson_atomic.2
  | comparisons operands => rfl

/-- A field that is no operator is read as a clause on it. -/
theorem readMembers_plain {key : String} (plain : isOperatorKey key = false) (depth : Nat)
    (value : Json) (rest : Document) :
    readMembers depth ((key, value) :: rest) =
      (readCondition depth key value).bind fun predicate =>
        (readMembers depth rest).map (.field key predicate :: ·) := by
  have different : ∀ operator, isOperatorKey operator = true → key ≠ operator := by
    rintro operator marked rfl
    rw [plain] at marked
    cases marked
  rw [readMembers]
  · rw [plain]
    cases readCondition depth key value with
    | error reason => rfl
    | ok predicate => cases readMembers depth rest <;> rfl
  · exact different "$and" (by decide)
  · exact different "$or" (by decide)
  · exact different "$nor" (by decide)

/-- A field that is taken for an operator is refused, unless it is one of the operators
with clauses and has an array of them. -/
theorem readMembers_marked {key : String} (marked : isOperatorKey key = true) (depth : Nat)
    {value : Json} (notClauses : value.items? = none) (rest : Document) :
    ∃ reason, readMembers depth ((key, value) :: rest) = .error reason := by
  have noClauses : ∀ operator, readClauses depth operator value = .error (.clausesExpected operator) := by
    intro operator
    cases value with
    | array items => cases notClauses
    | _ =>
      rw [readClauses]
      simp
  by_cases isAnd : key = "$and"
  · subst isAnd
    exact ⟨_, by rw [readMembers, noClauses]; rfl⟩
  by_cases isOr : key = "$or"
  · subst isOr
    exact ⟨_, by rw [readMembers, noClauses]; rfl⟩
  by_cases isNor : key = "$nor"
  · subst isNor
    exact ⟨_, by rw [readMembers, noClauses]; rfl⟩
  · refine ⟨.unknownOperator key, ?_⟩
    rw [readMembers]
    · rw [marked]
      rfl
    · exact isAnd
    · exact isOr
    · exact isNor

/-- Without fields that are taken for operators, the clauses that the store reads for a
proper expression match exactly the documents that satisfy the expression. -/
theorem readMembers_toDocument {expression : Expression} (proper : expression.Proper)
    (plain : ∀ held ∈ expression, isOperatorKey held.1 = false) :
    ∃ clauses, readMembers 0 (expression.toDocument storeMark) = .ok clauses ∧
      ∀ document, clauses.all (·.matches document) = expression.isSatisfied document := by
  induction expression with
  | nil => exact ⟨[], rfl, fun document => rfl⟩
  | cons held rest inductionHypothesis =>
    obtain ⟨field, constraint⟩ := held
    obtain ⟨constraintProper, restProper⟩ := List.forall_mem_cons.mp proper
    obtain ⟨fieldPlain, restPlain⟩ := List.forall_mem_cons.mp plain
    obtain ⟨predicate, predicateRead, predicateMatches⟩ :=
      readCondition_toJson constraintProper field
    obtain ⟨clauses, clausesRead, clausesMatch⟩ := inductionHypothesis restProper restPlain
    refine ⟨.field field predicate :: clauses, ?_, fun document => ?_⟩
    · change readMembers 0 ((field, constraint.toJson storeMark) ::
        Expression.toDocument storeMark rest) = _
      rw [readMembers_plain fieldPlain, predicateRead, clausesRead]
      rfl
    · rw [List.all_cons, clausesMatch, Filter.matches, predicateMatches]
      rfl

/-- With a field that is taken for an operator, the store refuses a proper expression,
whatever stands before and after the field. -/
theorem readMembers_toDocument_marked {expression : Expression} (proper : expression.Proper)
    (marked : ∃ held ∈ expression, isOperatorKey held.1 = true) :
    ∃ reason, readMembers 0 (expression.toDocument storeMark) = .error reason := by
  induction expression with
  | nil => obtain ⟨held, member, -⟩ := marked; cases member
  | cons held rest inductionHypothesis =>
    obtain ⟨field, constraint⟩ := held
    obtain ⟨constraintProper, restProper⟩ := List.forall_mem_cons.mp proper
    change ∃ reason, readMembers 0 ((field, constraint.toJson storeMark) ::
      Expression.toDocument storeMark rest) = .error reason
    cases fieldMarked : isOperatorKey field with
    | true => exact readMembers_marked fieldMarked 0 (constraint.toJson_items storeMark) _
    | false =>
      obtain ⟨later, member, laterMarked⟩ := marked
      have restMarked : ∃ held ∈ rest, isOperatorKey held.1 = true := by
        rcases List.mem_cons.mp member with rfl | inRest
        · rw [fieldMarked] at laterMarked
          cases laterMarked
        · exact ⟨later, inRest, laterMarked⟩
      obtain ⟨reason, refused⟩ := inductionHypothesis restProper restMarked
      obtain ⟨predicate, predicateRead, -⟩ := readCondition_toJson constraintProper field
      exact ⟨reason, by rw [readMembers_plain fieldMarked, predicateRead, refused]; rfl⟩

end DocumentGateway.Search

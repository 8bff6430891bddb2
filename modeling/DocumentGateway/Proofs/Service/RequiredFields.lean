import DocumentGateway.Proofs.Filter.Paging
import DocumentGateway.Proofs.Search.EqualityTerm
import DocumentGateway.Proofs.Search.TermMerge
import DocumentGateway.Proofs.Service.Search

/-!
# Fields that a search requires

A constraint that binds a value, or that compares by an order, asks for a value: whether it does is
read off the constraint alone. Nothing is equal to a missing value but null, and nothing has an
order to either of them. As no operand of a search is null, a document that is found has a value
other than null at every field that is asked for.

The terms that count for a field are its last one and, if this one compares, all comparing terms
since the last one that binds a value. Each term that counts, unless it asks for a difference,
makes its field a required one.
-/
namespace DocumentGateway

namespace Search

/-! ## Constraints that ask for a value -/

/-- The constraint asks for a value: one to be equal to, or one that stands in an order. -/
def Constraint.AsksForValue : Constraint → Prop
  | .literal _ => True
  | .comparisons operands => ∃ entry ∈ operands, entry.1 ≠ .ne

/-- What passes a test that null does not pass is there and is not null. -/
theorem exists_of_passes {test : Json → Bool} {target : Option Json}
    (null : test .null = false) (passed : passes test target = true) :
    ∃ value, target = some value ∧ value ≠ .null := by
  cases target with
  | none => cases passed
  | some value =>
    refine ⟨value, rfl, ?_⟩
    rintro rfl
    exact Bool.false_ne_true (null.symm.trans passed)

/-- No scalar is null. -/
theorem Scalar.isValue_null (scalar : Scalar) : scalar.isValue .null = false := by
  cases scalar <;> rfl

/-- Null stands in no order to a scalar. -/
theorem Scalar.order?_null (scalar : Scalar) : scalar.order? .null = none := by
  cases scalar <;> rfl

/-- A comparison by order is satisfied by values only. -/
theorem Comparison.exists_of_isSatisfied {comparison : Comparison} (orders : comparison ≠ .ne)
    {operand : Scalar} {target : Option Json}
    (satisfied : comparison.isSatisfied operand target = true) :
    ∃ value, target = some value ∧ value ≠ .null := by
  cases comparison with
  | ne => exact absurd rfl orders
  | gte | lte | gt | lt =>
    rw [isSatisfied] at satisfied
    exact exists_of_passes (by rw [operand.order?_null]; rfl) satisfied

/-- A constraint that asks for a value is satisfied by values only. -/
theorem Constraint.exists_of_isSatisfied {constraint : Constraint}
    (asks : constraint.AsksForValue) {target : Option Json}
    (satisfied : constraint.isSatisfied target = true) :
    ∃ value, target = some value ∧ value ≠ .null := by
  cases constraint with
  | literal value => exact exists_of_passes value.isValue_null satisfied
  | comparisons operands =>
    obtain ⟨⟨comparison, operand⟩, held, orders⟩ := asks
    have each := List.all_eq_true.mp satisfied
    exact Comparison.exists_of_isSatisfied orders (each _ held)

/-! ## Operands of a filter document -/

/-- The operands in the filter document of an expression: the values to be equal to, and those
of the operators. -/
def shownOperands (document : Document) : List Json :=
  document.flatMap fun member =>
    match member.2 with
    | .object operators => operators.map Prod.snd
    | value => [value]

/-- No operand in the filter document of a proper expression is null. -/
theorem Expression.shownOperands_ne_null {expression : Expression} (proper : expression.Proper)
    (mark : String) : ∀ operand ∈ shownOperands (expression.toDocument mark), operand ≠ .null := by
  intro operand shown
  obtain ⟨member, inDocument, inMember⟩ := List.mem_flatMap.mp shown
  obtain ⟨⟨field, constraint⟩, held, rfl⟩ := List.mem_map.mp inDocument
  have constraintProper := proper _ held
  cases constraint with
  | literal value =>
    have single : operand = value.toJson := by
      have atomic := value.toJson_atomic.1
      cases shape : value.toJson with
      | object members => rw [shape] at atomic; cases atomic
      | _ => simpa [Constraint.toJson, shape] using inMember
    rw [single]
    exact Scalar.toJson_ne_null constraintProper
  | comparisons operands =>
    obtain ⟨shownOperator, inOperators, rfl⟩ := List.mem_map.mp inMember
    obtain ⟨⟨comparison, scalar⟩, inOperands, rfl⟩ := List.mem_map.mp inOperators
    exact Scalar.toJson_ne_null (constraintProper.2 _ inOperands)

/-! ## Terms that count -/

/-- A term counts for its field: it is the last one about the field, or a comparing one after the
last one about it that binds a value. -/
def Counts (matching : Matching) (search : List Char) (term : Term) : Prop :=
  (termsOn matching.recognizer search term.fieldName).getLast? = some term ∨
    term ∈ lastComparisons (termsOn matching.recognizer search term.fieldName)

/-- The comparisons that count bind no value. -/
theorem compares_of_mem_lastComparisons {own : List Term} {term : Term}
    (counts : term ∈ lastComparisons own) : term.operator ≠ .equal := by
  simpa using List.mem_rtakeWhile_imp counts

/-- A comparing term that is the last one stands after the last one that binds a value. -/
theorem mem_lastComparisons_of_getLast? {own : List Term} {term : Term}
    (isLast : own.getLast? = some term) (compares : term.operator ≠ .equal) :
    term ∈ lastComparisons own := by
  obtain ⟨before, rfl⟩ := List.getLast?_eq_some_iff.mp isLast
  simp [lastComparisons, compares]

/-- A term that counts makes the constraint on its field ask for a value, unless it asks for a
difference. -/
theorem Counts.asksForValue {matching : Matching} {search : List Char} {term : Term}
    (counts : Counts matching search term) (asks : term.operator ≠ .compare .ne) :
    ∃ constraint, (term.fieldName, constraint) ∈ compile matching search ∧
      constraint.AsksForValue := by
  have merged : Merged matching.recognizer (termsOn matching.recognizer search term.fieldName)
      (Keyed.get? term.fieldName (compile matching search)) :=
    merged_compile matching.recognizer search term.fieldName
  cases asked : term.operator with
  | equal =>
    have isLast : (termsOn matching.recognizer search term.fieldName).getLast? = some term :=
      counts.resolve_right fun compares => compares_of_mem_lastComparisons compares asked
    simp only [Merged, isLast, asked] at merged
    exact ⟨_, Keyed.mem_of_get? merged, trivial⟩
  | compare comparison =>
    have inRun : term ∈ lastComparisons (termsOn matching.recognizer search term.fieldName) := by
      rcases counts with isLast | inRun
      · exact mem_lastComparisons_of_getLast? isLast (by simp [asked])
      · exact inRun
    have named : comparison ∈ Keyed.keys
        (heldOperands (Keyed.get? term.fieldName (compile matching search))) := by
      rw [merged.operands.order, mem_firstOccurrences]
      exact List.mem_filterMap.mpr ⟨term, inRun, by rw [asked]; rfl⟩
    obtain ⟨entry, inOperands, rfl⟩ := List.mem_map.mp named
    cases held : Keyed.get? term.fieldName (compile matching search) with
    | none => rw [held] at inOperands; cases inOperands
    | some constraint =>
      refine ⟨constraint, Keyed.mem_of_get? held, ?_⟩
      rw [held] at inOperands
      cases constraint with
      | literal value => trivial
      | comparisons operands =>
        refine ⟨entry, inOperands, ?_⟩
        intro different
        exact asks (by rw [asked, different])

end Search

open Search

/-- The path of a document leads to a value other than null. -/
def HasValue (document : Document) (path : String) : Prop :=
  ∃ value, Json.resolve document path = some value ∧ value ≠ .null

/-- A document that satisfies an expression has a value wherever a constraint asks for one. -/
theorem Search.Expression.hasValue {expression : Expression} {document : Document}
    (satisfied : expression.isSatisfied document = true) {field : String} {constraint : Constraint}
    (held : (field, constraint) ∈ expression) (asks : constraint.AsksForValue) :
    HasValue document field :=
  Constraint.exists_of_isSatisfied asks (List.all_eq_true.mp satisfied _ held)

/-! ## Documents that a search matches -/

namespace Service

/-- A document is matched by the filter of a search string. -/
def Matched (service : Service) (search : String) (document : Document) : Prop :=
  ∃ filter, service.searchFilter (some search) = .ok filter ∧ filter.matches document = true

/-- A document that is matched satisfies the expression of the search string. -/
theorem Matched.isSatisfied {service : Service} {search : String} {document : Document}
    (matched : service.Matched search document) :
    (compile service.compiler.matching search.toList).isSatisfied document = true := by
  obtain ⟨filter, read, accepted⟩ := matched
  have proper := compileOptional_proper service.compiler.matching (some search)
  exact (matches_of_storeFilter proper read document).symm.trans accepted

/-- What a search finds is matched by it. -/
theorem matched_of_search {service : Service} {search : String} {database collection : String}
    {selection : Selection} {documents : List Document}
    (found : (service.search database collection (some search) selection).1 = .ok documents)
    {document : Document} (member : document ∈ documents) : service.Matched search document := by
  change (service.searchFilter (some search)).bind _ = _ at found
  obtain ⟨filter, read, selected⟩ := bind_eq_ok_iff.mp found
  rw [find_eq_getAll] at selected
  obtain ⟨all, -, rfl⟩ := map_eq_ok_iff.mp selected
  exact ⟨filter, read, (List.mem_filter.mp (Selection.mem_of_mem_select member)).2⟩

/-- A search constrains presence. No operand of a search string is shown as null, whatever its
terms are and whatever mark the operators are shown with. A document that the search matches, and
so each one that it finds, has a value other than null at every field that is bound to a value or
compared by order, and at the field of every term of equality or order that counts. -/
theorem search_requires_values (service : Service) (search : String) :
    let matching := service.compiler.matching
    let expression := compile matching search.toList
    (∀ mark, ∀ operand ∈ shownOperands (expression.toDocument mark), operand ≠ .null) ∧
      (∀ database collection selection documents,
        (service.search database collection (some search) selection).1 = .ok documents →
          ∀ document ∈ documents, service.Matched search document) ∧
      ∀ document, service.Matched search document →
        (∀ held ∈ expression, held.2.AsksForValue → HasValue document held.1) ∧
          ∀ term, Counts matching search.toList term → term.operator ≠ .compare .ne →
            HasValue document term.fieldName := by
  intro matching expression
  refine ⟨?_, ?_, ?_⟩
  · exact Expression.shownOperands_ne_null (compileOptional_proper matching (some search))
  · intro database collection selection documents found document member
    exact matched_of_search found member
  · intro document matched
    have satisfied := matched.isSatisfied
    constructor
    · intro held member asks
      exact Expression.hasValue satisfied member asks
    · intro term counts asks
      obtain ⟨constraint, held, asksForValue⟩ := counts.asksForValue asks
      exact Expression.hasValue satisfied held asksForValue

/-- A number that is too large is a text, and a document with this text has the field. -/
theorem overlarge_number_required :
    let service : Service :=
      { store := { backend := .memory .empty, compression := {}, immutable := .empty,
                   ids := ⟨0, toString⟩ },
        compiler := {}, health := {}, probes := 0, records := [] }
    let document : Document := [("n", .string "1e999")]
    service.Matched "n:1e999" document ∧ HasValue document "n" := by
  intro service document
  have parsed : Term.parse? "n:1e999".toList = some ⟨"n".toList, .equal, "1e999".toList⟩ := by
    decide
  have overlarge : Matching.anywhere.infer "1e999".toList = .text "1e999".toList :=
    Recognizer.infer_eq_text (Recognizer.number?_eq_none (by rfl)) (by rfl)
  have compiled : compile service.compiler.matching "n:1e999".toList =
      [("n", .literal (.text "1e999".toList))] := by
    rw [compile_equal service.compiler.matching (by decide) parsed]
    exact congrArg (fun value => [("n", Constraint.literal value)]) overlarge
  have matched : service.Matched "n:1e999" document := by
    have proper := compileOptional_proper service.compiler.matching (some "n:1e999")
    change Expression.Proper (compile service.compiler.matching "n:1e999".toList) at proper
    rw [compiled] at proper
    obtain ⟨filter, read, meaning⟩ := storeFilter_plain proper (by decide)
    refine ⟨filter, ?_, (meaning document).trans (by rfl)⟩
    change storeFilter (compile service.compiler.matching "n:1e999".toList) = _
    rw [compiled, read]
  refine ⟨matched, ?_⟩
  have required := ((search_requires_values service "n:1e999").2.2 document matched).1
  rw [compiled] at required
  exact required ("n", .literal (.text "1e999".toList)) (List.mem_singleton.mpr rfl) trivial

end Service

end DocumentGateway

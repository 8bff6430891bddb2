import DocumentGateway.Proofs.Except
import DocumentGateway.Proofs.Search.StoreFilter

/-!
# What a search finds

A search is a find with the filter that the store reads from a compiled expression. What
it finds is said here without that filter: the documents that satisfy the expression, or
nothing but a refusal if the expression has a field that the store takes for an operator.
The mark that a service shows its filters with has no part in either.
-/
namespace DocumentGateway

open Search

namespace Service

/-- A service that shows operators with another mark. -/
def withMark (service : Service) (mark : String) : Service :=
  { service with compiler := { service.compiler with operatorMark := mark } }

/-- The store's filter of a proper expression without fields that are taken for operators
matches exactly the documents that satisfy the expression. -/
theorem storeFilter_plain {expression : Expression} (proper : expression.Proper)
    (plain : ∀ held ∈ expression, isOperatorKey held.1 = false) :
    ∃ filter, storeFilter expression = .ok filter ∧
      ∀ document, filter.matches document = expression.isSatisfied document := by
  obtain ⟨clauses, clausesRead, clausesMatch⟩ := readMembers_toDocument proper plain
  have read : Filter.ofJson (.object (expression.toDocument storeMark)) =
      .ok (joinFilters clauses) := by
    rw [Filter.ofJson, readFilter, if_neg (by decide), clausesRead]
    rfl
  refine ⟨joinFilters clauses, ?_, fun document => ?_⟩
  · rw [storeFilter, readStoreFilter, read]
    rfl
  · rw [joinFilters_matches, clausesMatch]

/-- The store refuses a proper expression with a field that it takes for an operator. -/
theorem storeFilter_marked {expression : Expression} (proper : expression.Proper)
    (marked : ∃ held ∈ expression, isOperatorKey held.1 = true) :
    ∃ reason, storeFilter expression = .error (.invalidFilter reason) := by
  obtain ⟨reason, refused⟩ := readMembers_toDocument_marked proper marked
  have read : Filter.ofJson (.object (expression.toDocument storeMark)) = .error reason := by
    rw [Filter.ofJson, readFilter, if_neg (by decide), refused]
    rfl
  refine ⟨reason.message, ?_⟩
  rw [storeFilter, readStoreFilter, read]
  rfl

/-- The store's filter of a proper expression, if it is not refused, matches exactly the documents
that satisfy the expression. -/
theorem matches_of_storeFilter {expression : Expression} (proper : expression.Proper)
    {filter : Filter} (read : storeFilter expression = .ok filter) (document : Document) :
    filter.matches document = expression.isSatisfied document := by
  by_cases marked : ∃ held ∈ expression, isOperatorKey held.1 = true
  · obtain ⟨reason, refused⟩ := storeFilter_marked proper marked
    rw [refused] at read
    cases read
  · have plain : ∀ held ∈ expression, isOperatorKey held.1 = false := by
      intro held member
      exact Bool.eq_false_iff.mpr fun fieldMarked => marked ⟨held, member, fieldMarked⟩
    obtain ⟨other, readOther, matched⟩ := storeFilter_plain proper plain
    rw [readOther] at read
    obtain rfl := Except.ok.inj read
    exact matched document

/-- A find selects among the matching documents of a collection. -/
theorem find_eq_getAll (store : DocumentStore) (database collection : String) (filter : Filter)
    (selection : Selection) :
    store.find database collection filter selection =
      (store.getAll database collection).map fun documents =>
        selection.select (documents.filter filter.matches) := by
  unfold DocumentStore.find DocumentStore.getAll
  exact bind_map_ok _

/-- A search string is refused exactly if one of the fields it constrains begins with the
mark of operators. Otherwise it finds the documents that satisfy its expression, whatever
mark the service shows its filters with. -/
theorem search_finds_satisfying (service : Service) (search : Option String) :
    let expression := compileOptional service.compiler.matching search
    match storeFilter expression with
    | .error error =>
      (∃ held ∈ expression, isOperatorKey held.1 = true) ∧
        (∃ reason, error = .invalidFilter reason) ∧
        ∀ mark database collection selection,
          ((service.withMark mark).search database collection search selection).1 = .error error
    | .ok filter =>
      (∀ held ∈ expression, isOperatorKey held.1 = false) ∧
        (∀ document, filter.matches document = expression.isSatisfied document) ∧
        ∀ mark database collection selection,
          ((service.withMark mark).search database collection search selection).1 =
            (service.store.getAll database collection).map fun documents =>
              selection.select (documents.filter expression.isSatisfied) := by
  intro expression
  have proper : expression.Proper := compileOptional_proper service.compiler.matching search
  -- A search starts with the filter of its expression, which knows no mark.
  have searched : ∀ mark database collection selection,
      ((service.withMark mark).search database collection search selection).1 =
        (storeFilter expression).bind fun filter =>
          service.store.find database collection filter selection :=
    fun mark database collection selection => rfl
  by_cases marked : ∃ held ∈ expression, isOperatorKey held.1 = true
  · obtain ⟨reason, refused⟩ := storeFilter_marked proper marked
    rw [refused]
    refine ⟨marked, ⟨reason, rfl⟩, fun mark database collection selection => ?_⟩
    rw [searched, refused]
    rfl
  · have plain : ∀ held ∈ expression, isOperatorKey held.1 = false := by
      intro held member
      exact Bool.eq_false_iff.mpr fun fieldMarked => marked ⟨held, member, fieldMarked⟩
    obtain ⟨filter, read, matched⟩ := storeFilter_plain proper plain
    rw [read]
    refine ⟨plain, matched, fun mark database collection selection => ?_⟩
    have same : filter.matches = expression.isSatisfied := funext matched
    rw [searched, read, ← same]
    exact find_eq_getAll service.store database collection filter selection

end Service

end DocumentGateway

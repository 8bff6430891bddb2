import DocumentGateway.Filter.Reader
import DocumentGateway.Proofs.Search.Satisfaction

/-!
# Laws of matching

Lists of conditions and of clauses are matched one by one, and a single one that stands
for itself is matched like the list that holds it alone.
-/
namespace DocumentGateway

/-- A test of the candidates is one of the value itself and of its items. -/
theorem candidates_any (test : Json → Bool) (target : Option Json) :
    (candidates target).any test = Search.passes test target := by
  cases target with
  | none => rfl
  | some value => cases value <;> simp [candidates, Search.passes]

/-- The walk over the predicates finds out whether all of them hold. -/
theorem Predicate.allMatch_eq (predicates : List Predicate) (target : Option Json) :
    Predicate.allMatch predicates target = predicates.all (·.matches target) := by
  induction predicates with
  | nil => rfl
  | cons predicate rest inductionHypothesis =>
    rw [Predicate.allMatch, inductionHypothesis, List.all_cons]

/-- The walk over the clauses of a conjunction finds out whether all of them match. -/
theorem Filter.allMatch_eq (clauses : List Filter) (document : Document) :
    Filter.allMatch clauses document = clauses.all (·.matches document) := by
  induction clauses with
  | nil => rfl
  | cons clause rest inductionHypothesis =>
    rw [Filter.allMatch, inductionHypothesis, List.all_cons]

/-- The walk over the clauses of an alternative finds out whether one of them matches. -/
theorem Filter.anyMatches_eq (clauses : List Filter) (document : Document) :
    Filter.anyMatches clauses document = clauses.any (·.matches document) := by
  induction clauses with
  | nil => rfl
  | cons clause rest inductionHypothesis =>
    rw [Filter.anyMatches, inductionHypothesis, List.any_cons]

/-- Joined conditions are all required. -/
theorem joinPredicates_matches (predicates : List Predicate) (target : Option Json) :
    (joinPredicates predicates).matches target = predicates.all (·.matches target) := by
  unfold joinPredicates
  split
  · simp
  · rw [Predicate.matches, Predicate.allMatch_eq]

/-- Joined clauses are all required. -/
theorem joinFilters_matches (clauses : List Filter) (document : Document) :
    (joinFilters clauses).matches document = clauses.all (·.matches document) := by
  unfold joinFilters
  split
  · simp
  · rw [Filter.matches, Filter.allMatch_eq]

end DocumentGateway

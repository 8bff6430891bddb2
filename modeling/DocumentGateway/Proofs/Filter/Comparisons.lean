import DocumentGateway.Proofs.Json.Coherence
import DocumentGateway.Proofs.Json.Distinct
import DocumentGateway.Proofs.Pipeline.Sorting
import DocumentGateway.Proofs.Search.StoreFilter

/-!
# Comparisons in filters and in sorts

Filters compare a value with a bound, and sorts compare values with one another. A sort never
puts two values against what the comparisons of filters say of them. The comparisons of
filters split as the orders do: to be at least a bound is to exceed or to equal it. This holds
although comparisons look at the items of an array as well and treat a missing value on their
own, because equality with a bound of an ordered kind is itself a comparison, the one by which
values tie.
-/
namespace DocumentGateway

open Search (passes)

/-! ## Coherent comparisons -/

/-- The ways to compare two values agree: the total order tells apart what comparisons tell
apart, comparisons tie equal values of an ordered kind, and the total order ties no others. -/
structure Json.Coherent (a b : Json) : Prop where
  ordered : ∀ order, order ≠ .eq → a.compareSameKind b = some order → a.compare b = order
  equal_iff : a.compareSameKind b = some .eq ↔
    (Json.Kindred a b ∧ b.isOrdered = true) ∧ a.same b = true
  tied : a.compare b = .eq → a.same b = true

/-- The ways to compare a value with one whose keys are distinct agree. -/
theorem Json.coherent {a b : Json} (distinct : b.Distinct) : a.Coherent b where
  ordered _ strict compared := Json.compare_of_compareSameKind strict compared
  equal_iff := Json.compareSameKind_eq_iff
  tied := Json.same_of_compare_eq distinct

/-- A sort key compares the values under it in its direction. -/
theorem SortKey.compare_eq {key : SortKey} {left right : Document} {a b : Json}
    (foundLeft : Json.resolve left key.field = some a)
    (foundRight : Json.resolve right key.field = some b) :
    key.compare left right = key.direction.orient (a.compare b) := by
  rw [SortKey.compare, foundLeft, foundRight, Json.compareOptional]

/-- To turn an order round twice is to leave it as it is. -/
theorem Direction.orient_orient (direction : Direction) (order : Ordering) :
    direction.orient (direction.orient order) = order := by
  cases direction with
  | ascending => rfl
  | descending => exact Ordering.swap_swap

/-- Neither direction makes a tie of two things that differ. -/
theorem Direction.orient_gt_ne_eq (direction : Direction) : direction.orient .gt ≠ .eq := by
  cases direction <;> decide

/-- The comparisons of values are coherent. So a sort puts no value behind one that is compared to
come after it in the direction of the sort, and it ties only values that mean the same. -/
theorem comparisons_coherent :
    (∀ a b : Json, b.Distinct → a.Coherent b) ∧
      ∀ key documents, (sortDocuments [key] documents).Pairwise fun left right =>
        ∀ a b, Json.resolve left key.field = some a → Json.resolve right key.field = some b →
          a.compareSameKind b ≠ some (key.direction.orient .gt) ∧
            (b.Distinct → key.compare left right = .eq → a.same b = true) := by
  constructor
  · intro a b distinct
    exact Json.coherent distinct
  · intro key documents
    have ascends := (stablySorted_sortDocuments [key] documents).ascends
    rw [compareBy_singleton] at ascends
    apply ascends.imp
    intro left right inOrder a b foundLeft foundRight
    rw [SortKey.compare_eq foundLeft foundRight] at inOrder ⊢
    constructor
    · intro descends
      apply inOrder
      rw [Json.compare_of_compareSameKind key.direction.orient_gt_ne_eq descends,
        Direction.orient_orient]
    · intro distinct tied
      have unoriented := congrArg key.direction.orient tied
      rw [Direction.orient_orient] at unoriented
      apply Json.same_of_compare_eq distinct
      rw [unoriented]
      cases key.direction <;> rfl

/-- Numbers of different kinds tie, within objects and arrays too. -/
theorem mixed_numbers_tie :
    let left : Json := .object [("n", .number (.integer 1)), ("z", .array [.number (.real 0.0)])]
    let right : Json := .object [("n", .number (.real 1.0)), ("z", .array [.number (.integer 0)])]
    right.Distinct ∧ left.compare right = .eq ∧ left.same right = true := by
  intro left right
  have distinct : right.Distinct := by decide
  have tied : left.compare right = .eq := by decide +kernel
  exact ⟨distinct, tied, (comparisons_coherent.1 left right distinct).tied tied⟩

/-! ## Comparisons with a bound -/

/-- Whether a document matches the filter with one operator on one path, unless the filter is
refused. -/
def matchesCondition? (document : Document) (path operator : String) (operand : Json) :
    Option Bool :=
  (Filter.ofJson (.object [(path, .object [(operator, operand)])])).toOption.map
    (·.matches document)

/-- A filter with one operator on one path is read as the condition of the operator. -/
theorem ofJson_condition {path operator : String} {operand : Json} {predicate : Predicate}
    (plain : isOperatorKey path = false) (marked : isOperatorKey operator = true)
    (noOptions : operator ≠ "$options")
    (read : readOperators 0 path none [(operator, operand)] = .ok [predicate]) :
    Filter.ofJson (.object [(path, .object [(operator, operand)])]) =
      .ok (.field path predicate) := by
  have operators : shape [(operator, operand)] = .operators := by
    simp [shape, marked]
  have unchecked : checkOperators 0 path [(operator, operand)] = .ok none := by
    simp [checkOperators, Keyed.get?, noOptions, Filter.maxDepth]
  have condition : readCondition 0 path (.object [(operator, operand)]) = .ok predicate := by
    rw [readCondition, operators, unchecked]
    change (readOperators 0 path none [(operator, operand)]).bind _ = _
    rw [read]
    rfl
  rw [Filter.ofJson, readFilter, if_neg (by decide), Search.readMembers_plain plain, condition]
  rfl

/-- The operator that asks for a relation. -/
def Relation.operator : Relation → String
  | .greater => "$gt"
  | .atLeast => "$gte"
  | .less => "$lt"
  | .atMost => "$lte"

/-- At least means greater or tied. -/
theorem Relation.accepts_atLeast (order : Ordering) :
    Relation.atLeast.accepts order = (Relation.greater.accepts order || order == .eq) := by
  cases order <;> rfl

/-- At most means less or tied. -/
theorem Relation.accepts_atMost (order : Ordering) :
    Relation.atMost.accepts order = (Relation.less.accepts order || order == .eq) := by
  cases order <;> rfl

/-- A comparison by order is read as this comparison with its bound. -/
theorem readOperators_relation (path : String) (relation : Relation) (bound : Json) :
    readOperators 0 path none [(relation.operator, bound)] = .ok [.ordered relation bound] := by
  cases relation <;> rw [Relation.operator, readOperators, readOperators] <;> rfl

/-- The operator of equality is read as equality with its bound. -/
theorem readOperators_equal (path : String) (bound : Json) :
    readOperators 0 path none [("$eq", bound)] = .ok [.equal bound] := by
  rw [readOperators, readOperators]
  rfl

/-- Whether the value at a path, or an item of it, stands to a bound in an accepted order. -/
def standsTo (accepts : Ordering → Bool) (bound : Json) (target : Option Json) : Bool :=
  passes (fun value => (value.compareSameKind bound).any accepts) target

/-- What passes one of two tests passes the first or the second one. -/
theorem passes_or (first second : Json → Bool) (target : Option Json) :
    passes (fun value => first value || second value) target =
      (passes first target || passes second target) := by
  rw [← candidates_any, ← candidates_any, ← candidates_any, Bool.eq_iff_iff]
  simp only [Bool.or_eq_true, List.any_eq_true, and_or_left, exists_or]

section Bounds

variable {path : String} {bound : Json} (plain : isOperatorKey path = false)
  (ordered : bound.isOrdered = true) (document : Document)

include ordered in
/-- To equal a bound of an ordered kind is to tie with it, and a missing value does not. -/
theorem equalsOrContains_eq_standsTo (target : Option Json) :
    equalsOrContains target bound = standsTo (· == .eq) bound target := by
  cases target with
  | none => cases bound <;> first | rfl | cases ordered
  | some value =>
    rw [equalsOrContains, candidates_any, standsTo]
    simp only [Json.same_eq_of_isOrdered ordered]

include plain in
/-- A condition of order holds of a document exactly if the value at the path stands to the bound
in an order that the relation accepts. -/
theorem matchesCondition?_ordered (relation : Relation) :
    matchesCondition? document path relation.operator bound =
      some (standsTo relation.accepts bound (Json.resolve document path)) := by
  have marked : isOperatorKey relation.operator = true := by cases relation <;> decide
  have noOptions : relation.operator ≠ "$options" := by cases relation <;> decide
  rw [matchesCondition?,
    ofJson_condition plain marked noOptions (readOperators_relation path relation bound)]
  exact congrArg some (candidates_any _ _)

include plain ordered in
/-- A condition of equality holds of a document exactly if the value at the path ties with the
bound. -/
theorem matchesCondition?_equal :
    matchesCondition? document path "$eq" bound =
      some (standsTo (· == .eq) bound (Json.resolve document path)) := by
  rw [matchesCondition?,
    ofJson_condition plain (by decide) (by decide) (readOperators_equal path bound),
    ← equalsOrContains_eq_standsTo ordered]
  rfl

end Bounds

/-- To stand in one of two orders is to be accepted by one of two tests, item by item. -/
theorem standsTo_or {accepts first second : Ordering → Bool}
    (split : ∀ order, accepts order = (first order || second order)) (bound : Json)
    (target : Option Json) :
    standsTo accepts bound target =
      (standsTo first bound target || standsTo second bound target) := by
  have each : ∀ value : Json, (value.compareSameKind bound).any accepts =
      ((value.compareSameKind bound).any first || (value.compareSameKind bound).any second) := by
    intro value
    cases value.compareSameKind bound with
    | none => rfl
    | some order => exact split order
  simp only [standsTo, each, passes_or]

/-- A value that is no array stands to a bound by itself. -/
theorem standsTo_single {value : Json} (single : value.items? = none)
    (accepts : Ordering → Bool) (bound : Json) :
    standsTo accepts bound (some value) = (value.compareSameKind bound).any accepts := by
  cases value with
  | array items => cases single
  | _ => rfl

/-- Filters that compare a path with a number, a string or a boolean are accepted. To be at least
or at most the bound is to be greater or less or to equal it, whatever is found at the path. Of a
single value at most one of less, equal and greater holds, and one does exactly if the value is of
the kind of the bound. -/
theorem bounds_split {path : String} {bound : Json} (plain : isOperatorKey path = false)
    (ordered : bound.isOrdered = true) (document : Document) :
    let matched (operator : String) := matchesCondition? document path operator bound
    (∀ operator ∈ ["$gt", "$gte", "$lt", "$lte", "$eq"], (matched operator).isSome = true) ∧
      (matched "$gte" = some true ↔ matched "$gt" = some true ∨ matched "$eq" = some true) ∧
      (matched "$lte" = some true ↔ matched "$lt" = some true ∨ matched "$eq" = some true) ∧
      ∀ value, Json.resolve document path = some value → value.items? = none →
        let holding := ["$lt", "$eq", "$gt"].filter fun operator => matched operator = some true
        holding.length ≤ 1 ∧ (holding.length = 1 ↔ Json.Kindred value bound) := by
  intro matched
  have greater : matched "$gt" = _ := matchesCondition?_ordered plain document .greater
  have atLeast : matched "$gte" = _ := matchesCondition?_ordered plain document .atLeast
  have less : matched "$lt" = _ := matchesCondition?_ordered plain document .less
  have atMost : matched "$lte" = _ := matchesCondition?_ordered plain document .atMost
  have equal : matched "$eq" = _ := matchesCondition?_equal plain ordered document
  refine ⟨?_, ?_, ?_, ?_⟩
  · simp [greater, atLeast, less, atMost, equal]
  · rw [atLeast, greater, equal, standsTo_or Relation.accepts_atLeast]
    simp
  · rw [atMost, less, equal, standsTo_or Relation.accepts_atMost]
    simp
  · intro value found single holding
    have related : Json.Kindred value bound ↔ (value.compareSameKind bound).isSome = true := by
      rw [Json.compareSameKind_isSome_iff]
      exact (and_iff_left ordered).symm
    have counted : holding = ["$lt", "$eq", "$gt"].filter fun operator =>
        matched operator = some true := rfl
    rw [found, standsTo_single single] at greater less equal
    rw [related, counted]
    cases compared : value.compareSameKind bound with
    | none =>
      simp [greater, less, equal, compared]
    | some order =>
      cases order <;> simp [greater, less, equal, compared, Relation.accepts]

/-- A floating-point number stands in exactly one order to an integer. -/
theorem bounds_split_mixed_numbers :
    let bound : Json := .number (.integer 2)
    let value : Json := .number (.real 2.5)
    let document : Document := [("a", .object [("b", value)])]
    isOperatorKey "a.b" = false ∧ bound.isOrdered = true ∧
      Json.resolve document "a.b" = some value ∧ value.items? = none ∧
      (["$lt", "$eq", "$gt"].filter fun operator =>
        matchesCondition? document "a.b" operator bound = some true).length = 1 := by
  intro bound value document
  have plain : isOperatorKey "a.b" = false := by decide
  have found : Json.resolve document "a.b" = some value := by rfl
  have laws := @bounds_split "a.b" bound plain rfl document
  exact ⟨plain, rfl, found, rfl, (laws.2.2.2 value found rfl).2.mpr (.number _ _)⟩

end DocumentGateway

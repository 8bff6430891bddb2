import DocumentGateway.Filter.Basic
import DocumentGateway.Proofs.Filter.Matching
import DocumentGateway.Proofs.Json.Order
import Mathlib.Data.Option.Basic

/-!
# Filters and equality of meaning

Documents that mean the same match the same filters: a path leads to values that mean the
same in both of them or is missing in both, and no condition tells such values apart. Values
are called alike when each of them means the same as the other one. Once this is known of two
documents it is known of everything in them, without a look at their keys.
-/
namespace DocumentGateway

namespace Json

/-- Two values that mean the same, in whichever order they are given. -/
structure Alike (a b : Json) : Prop where
  forth : a.same b = true
  back : b.same a = true

/-- Where keys are distinct, sameness in one direction is sameness in both. -/
theorem alike_of_same {a b : Json} (distinct : a.Distinct) (same : a.same b = true) : Alike a b :=
  ⟨same, same_symm distinct same⟩

/-- Lists that are alike place by place have alike items at each place. -/
theorem item_alike {as bs : List Json} (each : List.Forall₂ Alike as bs) (place : Nat) :
    Option.Rel Alike as[place]? bs[place]? := by
  induction each generalizing place with
  | nil => exact .none
  | cons here _ inductionHypothesis =>
    cases place with
    | zero => exact .some here
    | succ place => exact inductionHypothesis place

namespace Alike

variable {a b : Json}

/-- Alike values mean the same as the same values. -/
theorem same_eq (alike : Alike a b) (operand : Json) : a.same operand = b.same operand := by
  rw [Bool.eq_iff_iff]
  constructor
  · exact same_trans alike.back
  · exact same_trans alike.forth

/-- Alike arrays have alike items, place by place. -/
theorem items {as bs : List Json} (alike : Alike (.array as) (.array bs)) :
    List.Forall₂ Alike as bs := by
  obtain ⟨forth, back⟩ := alike
  rw [same, sameItems_iff] at forth back
  induction forth with
  | nil => exact .nil
  | cons here _ inductionHypothesis =>
    cases back with
    | cons there back => exact .cons ⟨here, there⟩ (inductionHypothesis back)

/-- A member of one of two alike objects has a counterpart in the other one. As either of them
finds the counterpart of what the other one holds, the two values are alike. -/
theorem members {as bs : Document} (alike : Alike (.object as) (.object bs)) (key : String) :
    Option.Rel Alike (Keyed.get? key as) (Keyed.get? key bs) := by
  obtain ⟨forth, back⟩ := alike
  rw [same_object_iff] at forth back
  cases foundLeft : Keyed.get? key as with
  | some value =>
    obtain ⟨other, foundRight, here⟩ := forth.2 (key, value) (Keyed.mem_of_get? foundLeft)
    obtain ⟨again, foundAgain, there⟩ := back.2 (key, other) (Keyed.mem_of_get? foundRight)
    obtain rfl := Option.some.inj (foundLeft.symm.trans foundAgain)
    rw [foundRight]
    exact .some ⟨here, there⟩
  | none =>
    cases foundRight : Keyed.get? key bs with
    | none => exact .none
    | some other =>
      obtain ⟨value, found, -⟩ := back.2 (key, other) (Keyed.mem_of_get? foundRight)
      rw [foundLeft] at found
      cases found

/-- One step of a path leads to alike values. -/
theorem step (alike : Alike a b) (segment : String) :
    Option.Rel Alike (a.step segment) (b.step segment) := by
  cases kindred_of_same alike.forth with
  | null | bool | number | string => exact .none
  | object as bs => exact alike.members segment
  | array as bs =>
    simp only [Json.step]
    cases index? segment with
    | none => exact .none
    | some place => exact item_alike alike.items place

/-- A path leads to alike values. -/
theorem follow (alike : Alike a b) (path : List String) :
    Option.Rel Alike (Json.follow path a) (Json.follow path b) := by
  induction path generalizing a b with
  | nil => exact .some alike
  | cons segment rest inductionHypothesis =>
    have reached := alike.step segment
    rw [Json.follow, Json.follow]
    generalize a.step segment = left, b.step segment = right at reached
    cases reached with
    | none => exact .none
    | some reached => exact inductionHypothesis reached

/-- Alike values compare alike with a value of their kind. -/
theorem compareSameKind_eq (alike : Alike a b) (bound : Json) :
    a.compareSameKind bound = b.compareSameKind bound := by
  have forth := alike.forth
  cases kindred_of_same forth with
  | null | array | object => cases bound <;> rfl
  | bool | string =>
    obtain rfl := beq_iff_eq.mp forth
    rfl
  | number m n =>
    have position : m.position = n.position := beq_iff_eq.mp forth
    cases bound <;> simp [compareSameKind, position]

end Alike

end Json

open Json

/-- A pattern looks at the text of a string only. -/
theorem fitsText_eq {a b : Json} (alike : Alike a b) (pattern : Pattern) :
    fitsText pattern a = fitsText pattern b := by
  have forth := alike.forth
  cases kindred_of_same forth with
  | null | bool | number | array | object => rfl
  | string =>
    obtain rfl := beq_iff_eq.mp forth
    rfl

variable {left right : Option Json}

/-- What a condition looks at in alike values is alike. -/
theorem candidates_alike (alike : Option.Rel Alike left right) :
    List.Forall₂ Alike (candidates left) (candidates right) := by
  cases alike with
  | none => exact .nil
  | some alike =>
    cases kindred_of_same alike.forth with
    | null | bool | number | string | object => exact .cons alike .nil
    | array as bs => exact .cons alike alike.items

/-- A test that does not tell alike values apart has the same outcome. -/
theorem candidates_any_eq (alike : Option.Rel Alike left right) {test : Json → Bool}
    (blind : ∀ {a b : Json}, Alike a b → test a = test b) :
    (candidates left).any test = (candidates right).any test := by
  have each := candidates_alike alike
  generalize candidates left = seen, candidates right = seenThere at each
  induction each with
  | nil => rfl
  | cons here _ inductionHypothesis =>
    rw [List.any_cons, List.any_cons, blind here, inductionHypothesis]

/-- Two values that mean the same are equal to the same operands. -/
theorem equalsOrContains_congr (alike : Option.Rel Alike left right) (operand : Json) :
    equalsOrContains left operand = equalsOrContains right operand := by
  cases alike with
  | none => rfl
  | some alike => exact candidates_any_eq (.some alike) fun here => here.same_eq operand

mutual

/-- A condition does not tell alike values apart. -/
theorem Predicate.matches_congr (alike : Option.Rel Alike left right) :
    ∀ predicate : Predicate, predicate.matches left = predicate.matches right
  | .equal operand => equalsOrContains_congr alike operand
  | .different operand => congrArg (!·) (equalsOrContains_congr alike operand)
  | .ordered relation bound => candidates_any_eq alike fun here => by
      rw [here.compareSameKind_eq bound]
  | .oneOf operands => by
      simp only [Predicate.matches, funext (equalsOrContains_congr alike)]
  | .noneOf operands => by
      simp only [Predicate.matches, funext (equalsOrContains_congr alike)]
  | .present wanted => by cases alike <;> rfl
  | .fits pattern => candidates_any_eq alike fun here => fitsText_eq here pattern
  | .negated predicate => congrArg (!·) (predicate.matches_congr alike)
  | .every predicates => Predicate.allMatch_congr alike predicates

/-- Two values that mean the same pass the same predicates. -/
theorem Predicate.allMatch_congr (alike : Option.Rel Alike left right) :
    ∀ predicates : List Predicate,
      Predicate.allMatch predicates left = Predicate.allMatch predicates right
  | [] => rfl
  | predicate :: rest => by
    rw [Predicate.allMatch, Predicate.allMatch, predicate.matches_congr alike,
      Predicate.allMatch_congr alike rest]

end

mutual

/-- A filter does not tell alike documents apart. -/
theorem Filter.matches_congr {left right : Document}
    (alike : Alike (.object left) (.object right)) :
    ∀ filter : Filter, filter.matches left = filter.matches right
  | .every clauses => Filter.allMatch_congr alike clauses
  | .either clauses => Filter.anyMatches_congr alike clauses
  | .neither clauses => congrArg (!·) (Filter.anyMatches_congr alike clauses)
  | .field path predicate => predicate.matches_congr (alike.follow (segments path))

/-- Two documents that mean the same match the same conjunctions. -/
theorem Filter.allMatch_congr {left right : Document}
    (alike : Alike (.object left) (.object right)) :
    ∀ clauses : List Filter, Filter.allMatch clauses left = Filter.allMatch clauses right
  | [] => rfl
  | clause :: rest => by
    rw [Filter.allMatch, Filter.allMatch, clause.matches_congr alike,
      Filter.allMatch_congr alike rest]

/-- Two documents that mean the same match the same alternatives. -/
theorem Filter.anyMatches_congr {left right : Document}
    (alike : Alike (.object left) (.object right)) :
    ∀ clauses : List Filter, Filter.anyMatches clauses left = Filter.anyMatches clauses right
  | [] => rfl
  | clause :: rest => by
    rw [Filter.anyMatches, Filter.anyMatches, clause.matches_congr alike,
      Filter.anyMatches_congr alike rest]

end

/-- Documents that mean the same match the same filters. It is enough that one of them holds each
key once. -/
theorem matches_eq_of_same_meaning {left right : Document}
    (distinct : (Json.object left).Distinct)
    (same : (Json.object left).same (.object right) = true) (filter : Filter) :
    filter.matches left = filter.matches right :=
  filter.matches_congr (alike_of_same distinct same)

/-- Two documents with their members in different orders, at both levels, and with numbers of
different kinds. -/
theorem matches_eq_of_reordered_members :
    let left : Document :=
      [("n", .number (.integer 1)), ("o", .object [("a", .array [.bool true]), ("b", .null)])]
    let right : Document :=
      [("o", .object [("b", .null), ("a", .array [.bool true])]), ("n", .number (.real 1.0))]
    let filter : Filter :=
      .neither [.field "n" (.ordered .greater (.number (.integer 0))),
        .field "o.a.0" (.negated (.equal (.bool true)))]
    (Json.object left).Distinct ∧ (Json.object left).same (.object right) = true ∧
      filter.matches left = filter.matches right := by
  intro left right filter
  have inner : (Json.object [("a", .array [.bool true]), ("b", .null)]).Distinct :=
    .object (by decide) (List.forall_mem_cons.mpr
      ⟨.array (List.forall_mem_singleton.mpr (.bool true)), List.forall_mem_singleton.mpr .null⟩)
  have distinct : (Json.object left).Distinct :=
    .object (by decide) (List.forall_mem_cons.mpr ⟨.number _, List.forall_mem_singleton.mpr inner⟩)
  have same : (Json.object left).same (.object right) = true := by decide
  exact ⟨distinct, same, matches_eq_of_same_meaning distinct same filter⟩

end DocumentGateway

import DocumentGateway.Proofs.Json.Order
import Mathlib.Tactic.SplitIfs

/-!
# Coherence of equality and order

Values are compared in three ways: by meaning, by the total order of sorting, and by the
partial order of comparisons. Where the partial order tells two values apart the total one
agrees with it. Where it ties them they mean the same, and so they do where the total order
ties them. The converse fails for the total order, which looks at the order of members and
tells the zeros apart.
-/
namespace DocumentGateway

namespace Decimal

/-- The order of ranks refines the order of places on the real line. -/
theorem rank_lt_of_position_lt {x y : Float} (before : position x < position y) :
    rank x < rank y := by
  unfold position at before
  unfold rank
  split_ifs at before ⊢ <;> omega

/-- The total order refines the order on the real line: it tells apart the two zeros as well. -/
theorem position_eq_of_rank_eq {x y : Float} (same : rank x = rank y) :
    position x = position y := by
  unfold rank at same
  unfold position
  split_ifs at same ⊢ <;> omega

end Decimal

namespace Json

/-! ## Ordered kinds -/

/-- Whether a value is of one of the kinds that comparisons relate. -/
def isOrdered : Json → Bool
  | .number _ => true
  | .string _ => true
  | .bool _ => true
  | _ => false

/-- Two values compare exactly if they are both numbers, both strings or both booleans. -/
theorem compareSameKind_isSome_iff {a b : Json} :
    (a.compareSameKind b).isSome = true ↔ Kindred a b ∧ b.isOrdered = true := by
  constructor
  · intro compared
    cases a <;> cases b <;> simp [compareSameKind] at compared <;> exact ⟨by constructor, rfl⟩
  · rintro ⟨kindred, ordered⟩
    cases kindred <;> simp [isOrdered, compareSameKind] at ordered ⊢

/-- In a lawful order equality is a tie. -/
theorem beq_eq_compare {α : Type} [BEq α] [LawfulBEq α] [Ord α] [Std.LawfulEqOrd α] (a b : α) :
    (a == b) = (Ord.compare a b == .eq) := by
  rw [Bool.eq_iff_iff, beq_iff_eq, beq_iff_eq, Std.compare_eq_iff_eq]

/-- To mean the same as a value of an ordered kind is to tie with it. -/
theorem same_eq_of_isOrdered {b : Json} (ordered : b.isOrdered = true) (a : Json) :
    a.same b = (a.compareSameKind b).any (· == .eq) := by
  by_cases kindred : Kindred a b
  · cases kindred with
    | number m n => exact beq_eq_compare m.position n.position
    | string s t => exact beq_eq_compare s t
    | bool s t => exact beq_eq_compare s t
    | null | array | object => cases ordered
  · have unlike : a.same b = false := Bool.eq_false_iff.mpr (mt kindred_of_same kindred)
    have unrelated : a.compareSameKind b = none := by
      rw [← Option.not_isSome_iff_eq_none, compareSameKind_isSome_iff]
      exact fun related => kindred related.1
    rw [unlike, unrelated]
    rfl

/-- Values tie in a comparison exactly if they are of one ordered kind and mean the same. -/
theorem compareSameKind_eq_iff {a b : Json} :
    a.compareSameKind b = some .eq ↔ (Kindred a b ∧ b.isOrdered = true) ∧ a.same b = true := by
  constructor
  · intro tied
    have related := compareSameKind_isSome_iff.mp (Option.isSome_of_eq_some tied)
    refine ⟨related, ?_⟩
    rw [same_eq_of_isOrdered related.2, tied]
    rfl
  · rintro ⟨⟨-, ordered⟩, alike⟩
    rw [same_eq_of_isOrdered ordered, Option.any_eq_true] at alike
    obtain ⟨order, compared, tied⟩ := alike
    rw [compared, beq_iff_eq.mp tied]

/-! ## Agreement with the total order -/

/-- What comparisons tell apart is told apart by the total order in the same way. -/
theorem compare_of_compareSameKind {a b : Json} {order : Ordering} (strict : order ≠ .eq)
    (compared : a.compareSameKind b = some order) : a.compare b = order := by
  obtain ⟨kindred, ordered⟩ := compareSameKind_isSome_iff.mp (Option.isSome_of_eq_some compared)
  cases kindred with
  | number m n =>
    have apart : Ord.compare m.position n.position = order := Option.some.inj compared
    change Ord.compare m.rank n.rank = order
    cases order with
    | lt =>
      have before := Decimal.rank_lt_of_position_lt (Int.compare_eq_lt.mp apart)
      exact Int.compare_eq_lt.mpr before
    | eq => exact absurd rfl strict
    | gt =>
      have after := Decimal.rank_lt_of_position_lt (Int.compare_eq_gt.mp apart)
      exact Int.compare_eq_gt.mpr after
  | string s t => exact Option.some.inj compared
  | bool s t => exact Option.some.inj compared
  | null | array | object => cases ordered

/-- Two lists tie place by place. -/
theorem compareLex_eq_iff {α : Type} {order : α → α → Ordering} {as bs : List α} :
    as.compareLex order bs = .eq ↔ List.Forall₂ (fun a b => order a b = .eq) as bs := by
  induction as generalizing bs with
  | nil => cases bs <;> simp [List.compareLex]
  | cons a as inductionHypothesis =>
    cases bs with
    | nil => simp [List.compareLex]
    | cons b bs =>
      rw [List.compareLex_cons_cons, Ordering.then_eq_eq, List.forall₂_cons, inductionHypothesis]

/-- Lists whose items tie pairwise mean the same, if this holds of the items. -/
theorem sameItems_of_ties {as bs : List Json}
    (each : ∀ a ∈ as, ∀ b, b.Distinct → a.compare b = .eq → a.same b = true)
    (distinct : ∀ b ∈ bs, b.Distinct)
    (ties : List.Forall₂ (fun a b => Json.compare a b = .eq) as bs) :
    sameItems as bs = true := by
  rw [sameItems_iff]
  induction ties with
  | nil => exact .nil
  | cons tied _ inductionHypothesis =>
    obtain ⟨here, later⟩ := List.forall_mem_cons.mp each
    obtain ⟨distinctHere, distinctLater⟩ := List.forall_mem_cons.mp distinct
    exact .cons (here _ distinctHere tied) (inductionHypothesis later distinctLater)

/-- A member of an object that ties with another one stands there under the same key. -/
theorem counterpart_of_ties {as bs : Document}
    (ties : List.Forall₂ (fun a b => compareMember a b = .eq) as bs) {member : String × Json}
    (inMembers : member ∈ as) :
    ∃ value, (member.1, value) ∈ bs ∧ member.2.compare value = .eq := by
  induction ties with
  | nil => cases inMembers
  | @cons left right _ _ tied _ inductionHypothesis =>
    rcases List.mem_cons.mp inMembers with rfl | later
    · obtain ⟨sameKey, sameValue⟩ := Ordering.then_eq_eq.mp tied
      obtain ⟨key, value⟩ := right
      obtain rfl : member.1 = key := Std.compare_eq_iff_eq.mp sameKey
      exact ⟨value, List.mem_cons_self .., sameValue⟩
    · obtain ⟨value, found, sameValue⟩ := inductionHypothesis later
      exact ⟨value, List.mem_cons_of_mem _ found, sameValue⟩

/-- Values that the total order ties mean the same, if the keys of the second one are distinct: the
counterpart of a member is then what is found under its key. -/
theorem same_of_compare_eq {a b : Json} (distinct : b.Distinct) (tied : a.compare b = .eq) :
    a.same b = true := by
  induction a, b using inductionPairs with
  | unlike different =>
    rw [compare_of_kindRank_ne different] at tied
    exact absurd (Std.compare_eq_iff_eq.mp tied) different
  | null => rfl
  | bool a b =>
    obtain rfl : a = b := Std.compare_eq_iff_eq.mp tied
    exact beq_self_eq_true a
  | number a b =>
    have sameRank : a.rank = b.rank := Std.compare_eq_iff_eq.mp tied
    exact beq_iff_eq.mpr (Decimal.position_eq_of_rank_eq sameRank)
  | string a b =>
    obtain rfl : a = b := Std.compare_eq_iff_eq.mp tied
    exact beq_self_eq_true a
  | array as bs each =>
    obtain - | - | - | - | distinctItems := distinct
    rw [compare, compareItems_eq, compareLex_eq_iff] at tied
    rw [same]
    exact sameItems_of_ties each distinctItems tied
  | object as bs each =>
    obtain - | - | - | - | - | ⟨keys, distinctValues⟩ := distinct
    rw [compare, compareMembers_eq, compareLex_eq_iff] at tied
    rw [same_object_iff]
    refine ⟨tied.length_eq, ?_⟩
    intro member inMembers
    obtain ⟨value, inOthers, sameValue⟩ := counterpart_of_ties tied inMembers
    exact ⟨value, Keyed.get?_of_mem keys inOthers,
      each member inMembers value (distinctValues _ inOthers) sameValue⟩

end Json

end DocumentGateway

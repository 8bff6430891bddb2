import DocumentGateway.Pipeline.Basic
import DocumentGateway.Proofs.Json.Order
import Mathlib.Data.List.Induction

/-!
# Extreme values of a group

The accumulators for the least and for the greatest value go through the members of a group
and hold on to the most extreme value so far, missing values and nulls left out. A value takes
the place of the one held only if it goes beyond it, so the first one of several that tie stays.
The invariant is that the value held is the first extreme of those seen. As the order of values
is transitive, a value that goes beyond the one held goes beyond all that were seen.

Which values tie does not depend on the order of the members, and so the answers for two orders
of them tie.
-/
namespace DocumentGateway

/-! ## The first extreme of a list -/

/-- A value of a list is its first extreme: no value of the list goes beyond it, and every value
in front of it has one that does. The least value is wanted by `lt` and the greatest by `gt`. -/
structure FirstExtreme (wanted : Ordering) (values : List Json) (best : Json) : Prop where
  extreme : ∀ other ∈ values, best.compare other ≠ wanted.swap
  first : ∃ before after, values = before ++ best :: after ∧
    ∀ earlier ∈ before, ∃ other ∈ values, earlier.compare other = wanted.swap

/-- To compare the other way around is to swap the outcome. -/
theorem compare_eq_swap_iff {left right : Json} {wanted : Ordering} :
    left.compare right = wanted.swap ↔ right.compare left = wanted := by
  rw [Json.compare_swap left right]
  exact Ordering.swap_inj

namespace FirstExtreme

variable {wanted : Ordering} {values others : List Json} {best : Json}

/-- The first extreme is one of the values. -/
theorem mem (holds : FirstExtreme wanted values best) : best ∈ values := by
  obtain ⟨before, after, rfl, -⟩ := holds.first
  exact List.mem_append_right before (List.mem_cons_self ..)

section Strict

variable (strict : wanted ≠ .eq)

include strict

/-- What goes beyond a value goes beyond every one that this is not exceeded by. -/
theorem beyond_trans {a b c : Json} (beyond : a.compare b = wanted)
    (bound : b.compare c ≠ wanted.swap) : a.compare c = wanted := by
  cases wanted with
  | lt => exact Std.TransCmp.lt_of_lt_of_isLE beyond (Ordering.isLE_iff_ne_gt.mpr bound)
  | eq => exact absurd rfl strict
  | gt => exact Std.TransCmp.gt_of_gt_of_isGE beyond (Ordering.isGE_iff_ne_lt.mpr bound)

/-- No value goes beyond itself. -/
theorem self_ne_swap (value : Json) : value.compare value ≠ wanted.swap := by
  have tied : value.compare value = .eq := Std.ReflCmp.compare_self
  rw [Ne, compare_eq_swap_iff, tied]
  exact Ne.symm strict

/-- The outcome that is wanted is not its own opposite: it is no tie. -/
theorem ne_swap : wanted ≠ wanted.swap := by
  cases wanted with
  | lt | gt => decide
  | eq => exact absurd rfl strict

/-- The only value is the first extreme. -/
theorem singleton (value : Json) : FirstExtreme wanted [value] value where
  extreme := by
    intro other inList
    obtain rfl := List.mem_singleton.mp inList
    exact self_ne_swap strict other
  first := ⟨[], [], rfl, fun _ none => absurd none List.not_mem_nil⟩

/-- A value that goes beyond the first extreme of a list is the one of the longer list. -/
theorem exceeded (holds : FirstExtreme wanted values best) {value : Json}
    (beyond : value.compare best = wanted) : FirstExtreme wanted (values ++ [value]) value := by
  have beyondAll : ∀ other ∈ values, value.compare other = wanted := by
    intro other inList
    exact beyond_trans strict beyond (holds.extreme other inList)
  constructor
  · intro other inLonger
    rcases List.mem_append.mp inLonger with seen | last
    · rw [beyondAll other seen]
      exact ne_swap strict
    · obtain rfl := List.mem_singleton.mp last
      exact self_ne_swap strict other
  · refine ⟨values, [], rfl, ?_⟩
    intro earlier seen
    exact ⟨value, List.mem_append_right values (List.mem_singleton.mpr rfl),
      compare_eq_swap_iff.mpr (beyondAll earlier seen)⟩

omit strict in
/-- A value that does not go beyond the first extreme of a list leaves it in its place. -/
theorem unexceeded (holds : FirstExtreme wanted values best) {value : Json}
    (within : value.compare best ≠ wanted) : FirstExtreme wanted (values ++ [value]) best := by
  constructor
  · intro other inLonger
    rcases List.mem_append.mp inLonger with seen | last
    · exact holds.extreme other seen
    · obtain rfl := List.mem_singleton.mp last
      exact mt compare_eq_swap_iff.mp within
  · obtain ⟨before, after, split, exceeded⟩ := holds.first
    refine ⟨before, after ++ [value], by simp [split], ?_⟩
    intro earlier inFront
    obtain ⟨other, seen, beyond⟩ := exceeded earlier inFront
    exact ⟨other, List.mem_append_left [value] seen, beyond⟩

/-- The first extremes of lists of the same values tie: neither goes beyond the other. -/
theorem tied {other : Json} (holds : FirstExtreme wanted values best)
    (holdsOther : FirstExtreme wanted others other) (same : values.Perm others) :
    best.compare other = .eq := by
  have forth : best.compare other ≠ wanted.swap :=
    holds.extreme other (same.mem_iff.mpr holdsOther.mem)
  have back : best.compare other ≠ wanted := by
    have bound := holdsOther.extreme best (same.mem_iff.mp holds.mem)
    exact mt compare_eq_swap_iff.mpr bound
  cases compared : best.compare other <;> cases wanted <;> simp_all

end Strict

end FirstExtreme

/-! ## The values of a group -/

/-- What is held after a list of values: nothing after none, and else their first extreme. -/
def HeldExtreme (wanted : Ordering) (values : List Json) : Option Json → Prop
  | none => values = []
  | some best => FirstExtreme wanted values best

/-- The invariant is kept by every value that is looked at. -/
theorem HeldExtreme.step {wanted : Ordering} (strict : wanted ≠ .eq) {values : List Json}
    {held : Option Json} (holds : HeldExtreme wanted values held) (value : Json) :
    HeldExtreme wanted (values ++ [value]) (moreExtreme wanted held value) := by
  cases held with
  | none =>
    obtain rfl : values = [] := holds
    exact FirstExtreme.singleton strict value
  | some best =>
    rw [moreExtreme]
    split
    · rename_i beyond
      exact FirstExtreme.exceeded strict holds (beq_iff_eq.mp beyond)
    · rename_i within
      exact FirstExtreme.unexceeded holds (mt beq_iff_eq.mpr within)

/-- After all values their first extreme is held. -/
theorem heldExtreme_foldl {wanted : Ordering} (strict : wanted ≠ .eq) (values : List Json) :
    HeldExtreme wanted values (values.foldl (moreExtreme wanted) none) := by
  induction values using List.reverseRecOn with
  | nil => rfl
  | append_singleton values value inductionHypothesis =>
    rw [List.foldl_append]
    exact inductionHypothesis.step strict value

/-- The values that are there and not null, in their order. -/
def givenValues (values : List (Option Json)) : List Json :=
  (values.filterMap id).filter (!·.isNull)

/-- Null is the only value that passes for null. -/
theorem Json.isNull_iff {value : Json} : value.isNull = true ↔ value = .null := by
  cases value <;> simp [isNull]

/-- A value is given if it is there and is not null. -/
theorem mem_givenValues {values : List (Option Json)} {value : Json} :
    value ∈ givenValues values ↔ some value ∈ values ∧ value ≠ .null := by
  simp [givenValues, ← Json.isNull_iff]

/-- None is given if all that are there are null. -/
theorem givenValues_eq_nil {values : List (Option Json)} :
    givenValues values = [] ↔ ∀ value, some value ∈ values → value = .null := by
  rw [List.eq_nil_iff_forall_not_mem]
  constructor
  · intro none value inList
    by_contra given
    exact none value (mem_givenValues.mpr ⟨inList, given⟩)
  · intro null value given
    obtain ⟨inList, notNull⟩ := mem_givenValues.mp given
    exact notNull (null value inList)

/-- An answer is the extreme of values that may be missing: null if none is given, and else the
first extreme of those that are. -/
structure AnswersExtreme (wanted : Ordering) (values : List (Option Json)) (answer : Json) :
    Prop where
  null_iff : answer = .null ↔ ∀ value, some value ∈ values → value = .null
  first : answer ≠ .null → FirstExtreme wanted (givenValues values) answer

/-- The walk over the values answers their first extreme, or null if none is given. -/
theorem answersExtreme_extreme {wanted : Ordering} (strict : wanted ≠ .eq)
    (values : List (Option Json)) : AnswersExtreme wanted values (extreme wanted values) := by
  have holds := heldExtreme_foldl strict (givenValues values)
  have answer : extreme wanted values =
      ((givenValues values).foldl (moreExtreme wanted) none).getD .null := rfl
  rw [answer]
  cases held : (givenValues values).foldl (moreExtreme wanted) none with
  | none =>
    rw [held] at holds
    exact ⟨iff_of_true rfl (givenValues_eq_nil.mp holds), fun notNull => absurd rfl notNull⟩
  | some best =>
    rw [held] at holds
    have first : FirstExtreme wanted (givenValues values) best := holds
    obtain ⟨inList, notNull⟩ := mem_givenValues.mp first.mem
    refine ⟨iff_of_false notNull ?_, fun _ => first⟩
    intro null
    exact notNull (null best inList)

/-- The extremes of the same values in two orders tie. -/
theorem compare_extreme_of_perm {wanted : Ordering} (strict : wanted ≠ .eq)
    {values others : List (Option Json)} (same : values.Perm others) :
    (extreme wanted values).compare (extreme wanted others) = .eq := by
  have answers := answersExtreme_extreme strict values
  have answersOther := answersExtreme_extreme strict others
  have nullTogether : extreme wanted values = .null ↔ extreme wanted others = .null := by
    rw [answers.null_iff, answersOther.null_iff]
    simp only [same.mem_iff]
  by_cases null : extreme wanted values = .null
  · rw [null, nullTogether.mp null]
    rfl
  · exact FirstExtreme.tied strict (answers.first null)
      (answersOther.first (mt nullTogether.mpr null)) ((same.filterMap id).filter _)

/-! ## Accumulators -/

/-- The least and the greatest value that an operand reads from the members of a group are null if
no member gives a value other than null. Otherwise they are the first value that is not greater,
or not less, than any that a member gives. For the same members in another order they tie with
what they were. -/
theorem least_and_greatest_are_first_extremes (operand : Operand) (members : List Document) :
    let answer (accumulator : Accumulator) (members : List Document) :=
      accumulator.apply (members.map operand.eval)
    AnswersExtreme .lt (members.map operand.eval) (answer .least members) ∧
      AnswersExtreme .gt (members.map operand.eval) (answer .greatest members) ∧
      ∀ reordered, members.Perm reordered →
        (answer .least members).compare (answer .least reordered) = .eq ∧
          (answer .greatest members).compare (answer .greatest reordered) = .eq := by
  intro answer
  refine ⟨answersExtreme_extreme (by decide) _, answersExtreme_extreme (by decide) _, ?_⟩
  intro reordered same
  have sameValues := same.map operand.eval
  exact ⟨compare_extreme_of_perm (by decide) sameValues,
    compare_extreme_of_perm (by decide) sameValues⟩

/-- The least values of a group tie whichever of two equal numbers comes first. -/
theorem least_of_reordered_ties :
    let whole : Document := [("x", .number (.integer 1))]
    let without : Document := [("y", .null)]
    let written : Document := [("x", .number (.real 1.0))]
    let answer (members : List Document) := Accumulator.least.apply
      (members.map (Operand.field "x").eval)
    [whole, without, written].Perm [written, without, whole] ∧
      (answer [whole, without, written]).compare (answer [written, without, whole]) = .eq := by
  intro whole without written answer
  have same : [whole, without, written].Perm [written, without, whole] :=
    (List.reverse_perm [whole, without, written]).symm
  exact ⟨same, ((least_and_greatest_are_first_extremes (.field "x") _).2.2 _ same).1⟩

end DocumentGateway

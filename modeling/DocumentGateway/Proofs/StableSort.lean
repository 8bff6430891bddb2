import Mathlib.Data.List.Sort
import Mathlib.Order.Basic

/-!
# Stable sorts

A list is sorted stably if it is rearranged so that nothing in it descends and the things
that tie keep the order they had. Only one rearrangement does this, so a sort need not be
looked into: what rearranges a list in this way is its stable sort. Leaving things out of a
sorted list does, and so does sorting by one comparison what is sorted by another, which is
the stable sort by the first comparison and, among its ties, by the second.
-/
namespace DocumentGateway

variable {α : Type} {order first second : α → α → Ordering} {items sorted : List α}

/-- Whether two things tie in a comparison. -/
def ties (order : α → α → Ordering) (left right : α) : Bool :=
  order left right == .eq

/-- A list is the stable sort of another one: it holds the same things, none of them descends to a
later one, and those that tie with any given thing stand in their old order. -/
structure StablySorted (order : α → α → Ordering) (items sorted : List α) : Prop where
  perm : sorted.Perm items
  ascends : sorted.Pairwise fun left right => order left right ≠ .gt
  stable : ∀ item, sorted.filter (ties order item) = items.filter (ties order item)

/-- Everything ties with itself. -/
theorem ties_self [Std.TransCmp order] (item : α) : ties order item item = true := by
  rw [ties, beq_iff_eq]
  exact Std.ReflCmp.compare_self

/-- Things of which neither comes before the other tie. -/
theorem ties_of_ascends [Std.TransCmp order] {left right : α} (forth : order left right ≠ .gt)
    (back : order right left ≠ .gt) : ties order left right = true := by
  have swapped : order right left = (order left right).swap := Std.OrientedCmp.eq_swap
  rw [swapped] at back
  rw [ties]
  cases compared : order left right with
  | lt => exact absurd (by rw [compared]; rfl) back
  | eq => rfl
  | gt => exact absurd compared forth

section SameTies

variable [Std.TransCmp order] {left right : List α}

/-- What stands in one of two lists with the same ties stands in the other one. -/
theorem mem_of_sameTies
    (same : ∀ item, left.filter (ties order item) = right.filter (ties order item)) {item : α}
    (member : item ∈ left) : item ∈ right := by
  have kept : item ∈ left.filter (ties order item) :=
    List.mem_filter.mpr ⟨member, ties_self item⟩
  rw [same item] at kept
  exact (List.mem_filter.mp kept).1

/-- The first thing of a list that does not descend comes before nothing of it. -/
theorem first_ascends {item other : α}
    (ascends : (item :: left).Pairwise fun a b => order a b ≠ .gt) (member : other ∈ item :: left) :
    order item other ≠ .gt := by
  rcases List.mem_cons.mp member with rfl | later
  · have same : order other other = .eq := Std.ReflCmp.compare_self
    rw [same]
    decide
  · exact List.rel_of_pairwise_cons ascends later

/-- Two lists that do not descend are equal if the things that tie with any given one stand in the
same order in both of them. The first thing of each list stands in the other list as well, so the
two tie, and each is the first of its ties. -/
theorem eq_of_sameTies (leftAscends : left.Pairwise fun a b => order a b ≠ .gt)
    (rightAscends : right.Pairwise fun a b => order a b ≠ .gt)
    (same : ∀ item, left.filter (ties order item) = right.filter (ties order item)) :
    left = right := by
  induction left generalizing right with
  | nil =>
    cases right with
    | nil => rfl
    | cons b right =>
      have absent : b ∈ [] := mem_of_sameTies (fun item => (same item).symm) (List.mem_cons_self ..)
      exact absurd absent List.not_mem_nil
  | cons a left inductionHypothesis =>
    cases right with
    | nil => exact absurd (mem_of_sameTies same (List.mem_cons_self ..)) List.not_mem_nil
    | cons b right =>
      have forth : order a b ≠ .gt := first_ascends leftAscends
        (mem_of_sameTies (fun item => (same item).symm) (List.mem_cons_self ..))
      have back : order b a ≠ .gt := first_ascends rightAscends
        (mem_of_sameTies same (List.mem_cons_self ..))
      have firsts := same a
      rw [List.filter_cons_of_pos (ties_self a),
        List.filter_cons_of_pos (ties_of_ascends forth back)] at firsts
      obtain ⟨equal, -⟩ := List.cons.inj firsts
      subst equal
      congr 1
      apply inductionHypothesis leftAscends.of_cons rightAscends.of_cons
      intro item
      have rests := same item
      rw [List.filter_cons, List.filter_cons] at rests
      split at rests
      · exact (List.cons.inj rests).2
      · exact rests

end SameTies

namespace StablySorted

/-- A list has one stable sort. -/
theorem unique [Std.TransCmp order] {other : List α} (sort : StablySorted order items sorted)
    (sortOther : StablySorted order items other) : sorted = other := by
  apply eq_of_sameTies sort.ascends sortOther.ascends
  intro item
  rw [sort.stable, sortOther.stable]

/-- The stable sort of some things of a list is what is left of its stable sort. -/
theorem filter (sort : StablySorted order items sorted) (keep : α → Bool) :
    StablySorted order (items.filter keep) (sorted.filter keep) where
  perm := sort.perm.filter keep
  ascends := sort.ascends.filter keep
  stable item := by rw [List.filter_comm, sort.stable, List.filter_comm]

/-- Two things tie in a comparison by two keys exactly if they tie by each of them. -/
theorem ties_compareLex (item : α) : ties (compareLex first second) item =
    fun other => ties second item other && ties first item other := by
  funext other
  rw [ties, compareLex, ties, ties]
  cases first item other <;> cases second item other <;> rfl

/-- Sorting by one comparison what is sorted by a second one sorts by the first comparison and then
by the second. Where the first one ties, the order of the second one has been kept. -/
theorem lexicographic [Std.TransCmp first] {middle : List α}
    (inner : StablySorted second items middle) (outer : StablySorted first middle sorted) :
    StablySorted (compareLex first second) items sorted where
  perm := outer.perm.trans inner.perm
  ascends := by
    rw [List.pairwise_iff_forall_sublist]
    intro left right inSorted
    have ascendsFirst := List.pairwise_iff_forall_sublist.mp outer.ascends inSorted
    rw [compareLex]
    cases compared : first left right with
    | lt => simp
    | gt => exact absurd compared ascendsFirst
    | eq =>
      have tied : [left, right].filter (ties first left) = [left, right] := by
        have tiesRight : ties first left right = true := beq_iff_eq.mpr compared
        simp [ties_self, tiesRight]
      have inMiddle : [left, right].Sublist middle := by
        have kept := inSorted.filter (ties first left)
        rw [tied, outer.stable] at kept
        exact kept.trans List.filter_sublist
      exact List.pairwise_iff_forall_sublist.mp inner.ascends inMiddle
  stable item := by
    rw [ties_compareLex, ← List.filter_filter, ← List.filter_filter, outer.stable, List.filter_comm,
      inner.stable, List.filter_comm]

end StablySorted

/-- A lawful comparison sorts every list stably. -/
theorem stablySorted_mergeSort [Std.TransCmp order] (items : List α) :
    StablySorted order items (items.mergeSort fun left right => order left right != .gt) := by
  have isLE : ∀ left right, (order left right != .gt) = (order left right).isLE := by
    intro left right
    cases order left right <;> rfl
  have transitive : ∀ a b c, (order a b != .gt) = true → (order b c != .gt) = true →
      (order a c != .gt) = true := by
    intro a b c
    simp only [isLE]
    exact Std.TransCmp.isLE_trans
  have total : ∀ a b, ((order a b != .gt) || (order b a != .gt)) = true := by
    intro a b
    have swapped : order b a = (order a b).swap := Std.OrientedCmp.eq_swap
    rw [swapped]
    cases order a b <;> rfl
  have perm := List.mergeSort_perm items fun left right => order left right != .gt
  refine ⟨perm, ?_, ?_⟩
  · exact (List.pairwise_mergeSort transitive total items).imp bne_iff_ne.mp
  · intro item
    -- the things that tie with one another are a sorted part of the list, so sorting leaves them
    have tied : (items.filter (ties order item)).Pairwise fun a b => (order a b != .gt) = true := by
      refine List.pairwise_of_forall_mem_list ?_
      intro a inItems b inItems'
      have left := beq_iff_eq.mp (List.mem_filter.mp inItems).2
      have right := beq_iff_eq.mp (List.mem_filter.mp inItems').2
      rw [Std.TransCmp.eq_trans (Std.OrientedCmp.eq_symm left) right]
      rfl
    have kept := (List.sublist_mergeSort transitive total tied List.filter_sublist).filter
      (ties order item)
    rw [List.filter_filter] at kept
    simp only [Bool.and_self] at kept
    exact (kept.eq_of_length (perm.filter (ties order item)).length_eq.symm).symm

end DocumentGateway

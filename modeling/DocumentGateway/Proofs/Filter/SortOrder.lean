import DocumentGateway.Filter.Selection
import DocumentGateway.Proofs.Json.Order

/-!
# The order that documents are sorted by

A sort key compares two documents by the values at one path, and in the other direction if it
descends; several keys compare them lexicographically. None of this loses a law of the order
of values: it is looked at through a function, turned round, and put into a product. So every
list of sort keys orders the documents by a total preorder.
-/
namespace DocumentGateway

/-- The laws of a comparison that sorts: nothing differs from itself, two things compare in one
way only, and no descent is hidden between two steps that do not descend. -/
structure TotalPreorder {α : Type} (order : α → α → Ordering) : Prop where
  refl : ∀ x, order x x = .eq
  swap : ∀ x y, order y x = (order x y).swap
  trans : ∀ x y z, order x y ≠ .gt → order y z ≠ .gt → order x z ≠ .gt

/-- A transitive comparison obeys the laws of one that sorts. -/
theorem totalPreorder_of_transCmp {α : Type} (order : α → α → Ordering) [Std.TransCmp order] :
    TotalPreorder order where
  refl _ := Std.ReflCmp.compare_self
  swap _ _ := Std.OrientedCmp.eq_swap
  trans x y z first second := by
    have ascends : (order x z).isLE := Std.TransCmp.isLE_trans
      (Ordering.isLE_iff_ne_gt.mpr first) (Ordering.isLE_iff_ne_gt.mpr second)
    exact Ordering.isLE_iff_ne_gt.mp ascends

instance (key : SortKey) : Std.TransCmp key.compare := by
  have byField : Std.TransCmp
      (Ordering.byKey (fun document => Json.resolve document key.field) Json.compareOptional) :=
    inferInstance
  obtain ⟨field, direction⟩ := key
  cases direction with
  | ascending => exact byField
  | descending =>
    have reversed : SortKey.compare ⟨field, .descending⟩ = fun left right =>
        Json.compareOptional (Json.resolve right field) (Json.resolve left field) := by
      funext left right
      exact Std.OrientedCmp.eq_swap.symm
    rw [reversed]
    exact @Std.TransCmp.opposite _ _ byField

instance (keys : List SortKey) : Std.TransCmp (compareBy keys) := by
  induction keys with
  | nil =>
    exact { eq_swap := rfl, isLE_trans := fun _ _ => rfl }
  | cons key rest inductionHypothesis =>
    have product : compareBy (key :: rest) = compareLex key.compare (compareBy rest) := rfl
    rw [product]
    infer_instance

/-- Values that may be missing are totally preordered, and so are documents by every list of
sort keys. -/
theorem values_and_documents_totally_preordered :
    TotalPreorder Json.compareOptional ∧ ∀ keys, TotalPreorder (compareBy keys) := by
  constructor
  · exact totalPreorder_of_transCmp Json.compareOptional
  · intro keys
    exact totalPreorder_of_transCmp (compareBy keys)

end DocumentGateway

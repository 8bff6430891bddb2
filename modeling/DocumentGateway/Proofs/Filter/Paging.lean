import DocumentGateway.Filter.Selection
import Mathlib.Data.List.Nodup
import Mathlib.Logic.ExistsUnique

/-!
# Pages of documents

A list is cut into pages of one size. The pages before the first empty one make up the
list, and an element that stands in the list once stands on one page only. The selection of
a page takes this page of the sorted documents, because sorting does not depend on what is
skipped.
-/
namespace DocumentGateway

/-! ## Pages of a list -/

section

variable {α : Type} {size : Nat} {items : List α}

/-- The page with a number, counted from zero. -/
def pageOf (size number : Nat) (items : List α) : List α :=
  (items.drop (number * size)).take size

/-- A page is empty exactly if the pages before it hold the whole list. -/
theorem pageOf_eq_nil_iff (positive : 0 < size) (number : Nat) :
    pageOf size number items = [] ↔ items.length ≤ number * size := by
  rw [pageOf, List.take_eq_nil_iff, List.drop_eq_nil_iff]
  exact or_iff_right (Nat.ne_of_gt positive)

/-- The first pages make up the front of the list. -/
theorem flatMap_pageOf (size count : Nat) (items : List α) :
    (List.range count).flatMap (fun number => pageOf size number items) =
      items.take (count * size) := by
  induction count with
  | zero => simp
  | succ count inductionHypothesis =>
    rw [List.range_succ, List.flatMap_append, inductionHypothesis, Nat.succ_mul, List.take_add]
    simp [pageOf]

/-- An element is on the page that its place divided by the size gives. -/
theorem mem_pageOf_iff (positive : 0 < size) {number : Nat} {item : α} :
    item ∈ pageOf size number items ↔ ∃ place, place / size = number ∧ items[place]? = some item := by
  rw [pageOf, List.mem_iff_getElem?]
  constructor
  · rintro ⟨offset, found⟩
    rw [List.getElem?_take, List.getElem?_drop, Option.ite_none_right_eq_some] at found
    obtain ⟨onPage, here⟩ := found
    refine ⟨number * size + offset, ?_, here⟩
    rw [Nat.mul_comm, Nat.mul_add_div positive, Nat.div_eq_of_lt onPage, Nat.add_zero]
  · rintro ⟨place, rfl, here⟩
    refine ⟨place % size, ?_⟩
    rw [List.getElem?_take, if_pos (Nat.mod_lt place positive), List.getElem?_drop, Nat.mul_comm,
      Nat.div_add_mod, here]

/-- In a list without repetitions every element is on exactly one page. -/
theorem existsUnique_page (positive : 0 < size) (distinct : items.Nodup) {item : α}
    (member : item ∈ items) : ∃! number, item ∈ pageOf size number items := by
  obtain ⟨place, here⟩ := List.mem_iff_getElem?.mp member
  refine ⟨place / size, (mem_pageOf_iff positive).mpr ⟨place, rfl, here⟩, fun number onPage => ?_⟩
  obtain ⟨other, rfl, there⟩ := (mem_pageOf_iff positive).mp onPage
  obtain ⟨inside, -⟩ := List.getElem?_eq_some_iff.mp here
  rw [(List.getElem?_inj inside distinct).mp (here.trans there.symm)]

end

/-! ## Selected pages -/

/-- Documents that are sorted by nothing stay as they are. -/
theorem sortDocuments_nil (documents : List Document) : sortDocuments [] documents = documents :=
  List.mergeSort_of_pairwise (List.pairwise_of_forall fun _ _ => rfl)

namespace Selection

/-- What is selected is among the documents. -/
theorem mem_of_mem_select {selection : Selection} {documents : List Document}
    {document : Document} (selected : document ∈ selection.select documents) :
    document ∈ documents := by
  have sorted : document ∈ sortDocuments selection.sort.toList documents := by
    unfold select page at selected
    split at selected
    · exact List.mem_of_mem_drop (List.mem_of_mem_take selected)
    · exact List.mem_of_mem_drop selected
  exact List.mem_mergeSort.mp sorted

/-- A selection without a page takes all documents in their order. -/
theorem select_all (sort : Option SortKey) (documents : List Document) :
    ({ sort } : Selection).select documents = sortDocuments sort.toList documents := by
  simp [select, page]

/-- The selection of a page takes it from the sorted documents. -/
theorem select_paged {size : Nat} (positive : 0 < size) (number : Nat) (sort : Option SortKey)
    (documents : List Document) :
    ({ paged (number * size) size with sort } : Selection).select documents =
      pageOf size number (sortDocuments sort.toList documents) := by
  have start : ((number : Int) * size).toNat = number * size := by
    rw [← Int.natCast_mul, Int.toNat_natCast]
  simp [select, page, paged, positive, start, pageOf]

end Selection

end DocumentGateway

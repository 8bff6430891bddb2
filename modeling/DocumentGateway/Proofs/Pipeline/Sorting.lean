import DocumentGateway.Pipeline.Reader
import DocumentGateway.Proofs.Filter.Paging
import DocumentGateway.Proofs.Filter.SortOrder
import DocumentGateway.Proofs.StableSort

/-!
# Sorting documents and sorting stages

Documents are sorted stably, whatever is found at the paths of the sort keys. As a list has
only one stable sort, several keys sort as each of them does alone, the last one first, and a
stage that matches may stand before or after one that sorts: what is left of the sorted
documents is the stable sort of those that are left.
-/
namespace DocumentGateway

/-! ## Sort keys -/

/-- Documents are sorted stably by what their sort keys compare. -/
theorem stablySorted_sortDocuments (keys : List SortKey) (documents : List Document) :
    StablySorted (compareBy keys) documents (sortDocuments keys documents) :=
  stablySorted_mergeSort documents

/-- To compare by one key is to compare by it alone. -/
theorem compareBy_singleton (key : SortKey) : compareBy [key] = key.compare := by
  funext left right
  rw [compareBy, compareBy, Ordering.then_eq]

/-- The first key sorts what the others have sorted. -/
theorem sortDocuments_cons (key : SortKey) (rest : List SortKey) (documents : List Document) :
    sortDocuments (key :: rest) documents = sortDocuments [key] (sortDocuments rest documents) := by
  have inner := stablySorted_sortDocuments rest documents
  have outer := stablySorted_sortDocuments [key] (sortDocuments rest documents)
  rw [compareBy_singleton] at outer
  have both : StablySorted (compareBy (key :: rest)) documents
      (sortDocuments [key] (sortDocuments rest documents)) := inner.lexicographic outer
  exact (stablySorted_sortDocuments (key :: rest) documents).unique both

/-- Several keys sort as one key after another does, from the last one to the first. -/
theorem sortDocuments_eq_foldr (keys : List SortKey) (documents : List Document) :
    sortDocuments keys documents =
      keys.foldr (fun key sorted => sortDocuments [key] sorted) documents := by
  induction keys with
  | nil => exact sortDocuments_nil documents
  | cons key rest inductionHypothesis =>
    rw [sortDocuments_cons, inductionHypothesis, List.foldr_cons]

/-- Sorting by a list of keys gives the stable sort of the documents by their lexicographic order
and in their directions: the same documents, none descending to a later one, and those that tie
in their old order. There is no other stable sort, so it does not matter how it is made. Sorting by
one key after another, from the last one to the first, gives it too. -/
theorem documents_sorted_stably (keys : List SortKey) (documents : List Document) :
    StablySorted (compareBy keys) documents (sortDocuments keys documents) ∧
      (∀ sorted, StablySorted (compareBy keys) documents sorted →
        sorted = sortDocuments keys documents) ∧
      sortDocuments keys documents =
        keys.foldr (fun key sorted => sortDocuments [key] sorted) documents := by
  have sort := stablySorted_sortDocuments keys documents
  refine ⟨sort, ?_, sortDocuments_eq_foldr keys documents⟩
  intro sorted other
  exact other.unique sort

/-! ## Sorting and matching -/

/-- What is left of sorted documents is the sort of what is left of them. -/
theorem filter_sortDocuments (keys : List SortKey) (keep : Document → Bool)
    (documents : List Document) :
    (sortDocuments keys documents).filter keep = sortDocuments keys (documents.filter keep) :=
  ((stablySorted_sortDocuments keys documents).filter keep).unique
    (stablySorted_sortDocuments keys (documents.filter keep))

/-- A pipeline of two stages is read if both stages are. -/
theorem toOption_readStages_pair (first second : Json) :
    (Pipeline.ofJson (.array [first, second])).toOption =
      (Stage.ofJson first).toOption.bind fun stage =>
        (Stage.ofJson second).toOption.map fun next => [stage, next] := by
  rw [Pipeline.ofJson, readStages, readStages]
  cases Stage.ofJson first with
  | error cause => rfl
  | ok stage =>
    cases Stage.ofJson second with
    | error cause => rfl
    | ok next => rfl

/-- A stage that sorts and one that matches may change places, whatever the sort keys and the
filter are. Pipelines that are written with these two stages in either order are both refused or
give the same documents in the same order. -/
theorem sort_and_match_commute (documents : List Document) :
    (∀ keys filter, Pipeline.run [.sort keys, .select filter] documents =
        Pipeline.run [.select filter, .sort keys] documents) ∧
      ∀ keys filter : Json,
        let sort : Json := .object [("$sort", keys)]
        let select : Json := .object [("$match", filter)]
        (Pipeline.ofJson (.array [sort, select])).toOption.map (Pipeline.run · documents) =
          (Pipeline.ofJson (.array [select, sort])).toOption.map (Pipeline.run · documents) := by
  have commute : ∀ keys filter, Pipeline.run [.sort keys, .select filter] documents =
      Pipeline.run [.select filter, .sort keys] documents := by
    intro keys filter
    exact filter_sortDocuments keys filter.matches documents
  refine ⟨commute, ?_⟩
  intro keys filter sort select
  have sortRead : Stage.ofJson sort = (readSortKeys keys).map .sort := rfl
  have selectRead : (Stage.ofJson select).toOption = (Filter.ofJson filter).toOption.map .select := by
    change (readStageSpec "$match" filter).toOption = _
    rw [readStageSpec]
    cases Filter.ofJson filter <;> rfl
  rw [toOption_readStages_pair, toOption_readStages_pair, sortRead, selectRead]
  cases readSortKeys keys with
  | error cause => cases Filter.ofJson filter <;> rfl
  | ok keys =>
    cases Filter.ofJson filter with
    | error cause => rfl
    | ok filter => exact congrArg some (commute keys filter)

end DocumentGateway

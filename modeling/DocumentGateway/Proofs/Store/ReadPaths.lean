import DocumentGateway.Pipeline.Reader
import DocumentGateway.Proofs.Filter.Paging
import DocumentGateway.Proofs.Service.Search
import DocumentGateway.Proofs.Store.Reachable

/-!
# Three ways to read a collection

Finding, counting and aggregating read a collection on three ways. They are compared here
through what they all start from, the documents of the collection in their order. A find is
the pipeline that matches, sorts, skips and limits; a count is the length of a find; and the
pages of a find make up the find without pages, so that no document is lost between two pages
and none is shown on both.
-/
namespace DocumentGateway

/-! ## A find as a pipeline -/

/-- The number that a direction is written as in a sort stage. -/
def Direction.number : Direction → Int
  | .ascending => 1
  | .descending => -1

/-- The sort stage for one key. -/
def SortKey.stage (key : SortKey) : Json :=
  .object [("$sort", .object [(key.field, .number (.integer key.direction.number))])]

/-- The pipeline that selects a page of the matching documents: a stage for the filter, one for
the sort if there is any, and two for the page. -/
def findPipeline (filter : Json) (sort : Option SortKey) (skip limit : Nat) : Json :=
  .array (.object [("$match", filter)] :: (sort.map SortKey.stage).toList ++
    [.object [("$skip", Json.ofNat skip)], .object [("$limit", Json.ofNat limit)]])

/-- The stage of a sort key is read as sorting by this key. -/
theorem Stage.ofJson_sort (key : SortKey) : Stage.ofJson key.stage = .ok (.sort [key]) := by
  obtain ⟨field, direction⟩ := key
  cases direction <;> rfl

/-- A natural number is read as a count. -/
theorem readCount_ofNat (stage : String) (count : Nat) :
    readCount stage (Json.ofNat count) = .ok count := by
  simp [readCount, Json.ofNat, Number.toNat?]

/-- The stage of skipping is read as skipping the count. -/
theorem Stage.ofJson_skip (count : Nat) :
    Stage.ofJson (.object [("$skip", Json.ofNat count)]) = .ok (.skip count) := by
  rw [ofJson, readStageSpec, readCount_ofNat]
  rfl

/-- The stage of a limit is read as this limit, which may not be zero. -/
theorem Stage.ofJson_limit {count : Nat} (positive : 0 < count) :
    Stage.ofJson (.object [("$limit", Json.ofNat count)]) = .ok (.limit count) := by
  rw [ofJson, readStageSpec, readCount_ofNat]
  exact if_neg (Nat.ne_of_gt positive)

/-- The stage of matching is read as selecting by the filter that is read. -/
theorem Stage.ofJson_match {value : Json} {filter : Filter} (read : Filter.ofJson value = .ok filter) :
    Stage.ofJson (.object [("$match", value)]) = .ok (.select filter) := by
  rw [ofJson, readStageSpec, read]

/-- A row of stages that are all accepted is read as their row. -/
theorem readStages_eq {values : List Json} {stages : List Stage}
    (read : List.Forall₂ (fun value stage => Stage.ofJson value = .ok stage) values stages)
    (place : Nat) : readStages place values = .ok stages := by
  induction read generalizing place with
  | nil => rfl
  | cons stageRead _ inductionHypothesis =>
    rw [readStages, stageRead, inductionHypothesis]
    rfl

/-- The pipeline of a page is accepted, and it does what selecting the page does. -/
theorem findPipeline_run {value : Json} {filter : Filter}
    (read : readStoreFilter value = .ok filter) (sort : Option SortKey) (skip : Nat) {limit : Nat}
    (positive : 0 < limit) :
    ∃ pipeline, readStorePipeline (findPipeline value sort skip limit) = .ok pipeline ∧
      ∀ documents, Pipeline.run pipeline documents =
        ({ skip, limit := some limit, sort } : Selection).select (documents.filter filter.matches) := by
  have matching := Stage.ofJson_match (mapError_eq_ok_iff.mp read)
  cases sort with
  | none =>
    refine ⟨[.select filter, .skip skip, .limit limit], ?_, fun documents => ?_⟩
    · refine mapError_eq_ok_iff.mpr (readStages_eq ?_ 0)
      exact .cons matching (.cons (Stage.ofJson_skip skip) (.cons (Stage.ofJson_limit positive) .nil))
    · simp [Pipeline.run, Stage.run, Selection.select, Selection.page, sortDocuments_nil]
  | some key =>
    refine ⟨[.select filter, .sort [key], .skip skip, .limit limit], ?_, fun documents => ?_⟩
    · refine mapError_eq_ok_iff.mpr (readStages_eq ?_ 0)
      exact .cons matching (.cons (Stage.ofJson_sort key)
        (.cons (Stage.ofJson_skip skip) (.cons (Stage.ofJson_limit positive) .nil)))
    · simp [Pipeline.run, Stage.run, Selection.select, Selection.page]

namespace DocumentStore

variable {store : DocumentStore} {database collection : String}

/-- The documents that match are counted. -/
theorem count_eq_getAll (store : DocumentStore) (database collection : String) (filter : Filter) :
    store.count database collection filter =
      (store.getAll database collection).map fun documents => documents.countP filter.matches := by
  unfold count getAll
  exact bind_map_ok _

/-- A count is the length of a find, in whatever order it is sorted. -/
theorem count_eq_length_find (filter : Filter) (sort : Option SortKey) :
    store.count database collection filter =
      (store.find database collection filter { sort }).map List.length := by
  rw [count_eq_getAll, Service.find_eq_getAll]
  cases store.getAll database collection with
  | error error => rfl
  | ok documents =>
    simp [Except.map, Selection.select_all, sortDocuments, List.countP_eq_length_filter]

/-- The find of one page among the pages of a size. -/
def findPage (store : DocumentStore) (database collection : String) (filter : Filter)
    (sort : Option SortKey) (size number : Nat) : Except StoreError (List Document) :=
  store.find database collection filter { Selection.paged (number * size) size with sort }

/-- The pages of a find are the pages of the find without pages. -/
theorem findPage_eq {size : Nat} (positive : 0 < size) (filter : Filter) (sort : Option SortKey)
    (number : Nat) :
    store.findPage database collection filter sort size number =
      (store.find database collection filter { sort }).map (pageOf size number) := by
  rw [findPage, Service.find_eq_getAll, Service.find_eq_getAll]
  cases store.getAll database collection with
  | error error => rfl
  | ok documents =>
    simp [Except.map, Selection.select_all, Selection.select_paged positive]

/-- In a store that can be reached, a find shows each document that matches and shows it
once. -/
theorem mem_find (reachable : store.Reachable) {filter : Filter} {sort : Option SortKey}
    {found all : List Document}
    (read : store.find database collection filter { sort } = .ok found)
    (readAll : store.getAll database collection = .ok all) :
    found.Nodup ∧ ∀ document ∈ all, filter.matches document = true → document ∈ found := by
  rw [Service.find_eq_getAll, readAll] at read
  obtain rfl := Except.ok.inj read
  simp only [Selection.select_all]
  have reordered := List.mergeSort_perm (all.filter filter.matches)
    fun left right => compareBy sort.toList left right != .gt
  have distinct := (getAll_nodup reachable readAll).sublist
    (List.filter_sublist (p := filter.matches))
  refine ⟨reordered.nodup_iff.mpr distinct, fun document member holds => ?_⟩
  exact reordered.mem_iff.mpr (List.mem_filter.mpr ⟨member, holds⟩)

/-- The pages of a find come to an end, make up what is found, and show each document that
matches on exactly one page. -/
theorem pages_of_found (reachable : store.Reachable) {size : Nat} (positive : 0 < size)
    {filter : Filter} {sort : Option SortKey} {found : List Document}
    (read : store.find database collection filter { sort } = .ok found) :
    ∃ (page : Nat → List Document) (count : Nat),
      (∀ number,
        store.findPage database collection filter sort size number = .ok (page number)) ∧
      (∀ number < count, page number ≠ []) ∧ page count = [] ∧
      (List.range count).flatMap page = found ∧ found.Nodup ∧
      ∀ all, store.getAll database collection = .ok all → ∀ document ∈ all,
        filter.matches document = true → ∃! number, document ∈ page number := by
  have shown : ∃ all, store.getAll database collection = .ok all := by
    rw [Service.find_eq_getAll, map_eq_ok_iff] at read
    exact read.imp fun all both => both.1
  obtain ⟨all, readAll⟩ := shown
  obtain ⟨distinct, matching⟩ := mem_find reachable read readAll
  -- The last page may be short, so the number of pages is rounded up.
  have whole : found.length ≤ (found.length + size - 1) / size * size := by
    have rounded := Nat.lt_div_mul_add (a := found.length + size - 1) positive
    omega
  refine ⟨fun number => pageOf size number found, (found.length + size - 1) / size,
    fun number => ?_, fun number before empty => ?_, (pageOf_eq_nil_iff positive _).mpr whole, ?_,
    distinct, ?_⟩
  · rw [findPage_eq positive, read]
    rfl
  · have ended := (pageOf_eq_nil_iff positive number).mp empty
    have started := (Nat.le_div_iff_mul_le positive).mp (Nat.succ_le_of_lt before)
    rw [Nat.succ_mul] at started
    omega
  · rw [flatMap_pageOf, List.take_of_length_le whole]
  · intro others readOthers document member holds
    obtain rfl : all = others := Except.ok.inj (readAll.symm.trans readOthers)
    exact existsUnique_page positive distinct (matching document member holds)

/-- The three ways agree in every store that can be reached, for every filter that is accepted,
with or without a sort. A find of a page answers as the pipeline of the page does, a count is
the length of a find, and the pages up to the first empty one make up the find without pages,
each matching document standing on exactly one of them. Where the collection cannot be read,
all of them fail alike. -/
theorem read_paths_agree (reachable : store.Reachable) {value : Json} {filter : Filter}
    (accepted : readStoreFilter value = .ok filter) (database collection : String)
    (sort : Option SortKey) :
    (∀ skip limit, 0 < limit →
      ∃ pipeline, readStorePipeline (findPipeline value sort skip limit) = .ok pipeline ∧
        store.aggregate database collection pipeline =
          store.find database collection filter { skip, limit := some limit, sort }) ∧
      store.count database collection filter =
        (store.find database collection filter { sort }).map List.length ∧
      ∀ size, 0 < size →
        match store.find database collection filter { sort } with
        | .error error =>
          ∀ number, store.findPage database collection filter sort size number = .error error
        | .ok found => ∃ (page : Nat → List Document) (count : Nat),
          (∀ number,
            store.findPage database collection filter sort size number = .ok (page number)) ∧
          (∀ number < count, page number ≠ []) ∧ page count = [] ∧
          (List.range count).flatMap page = found ∧ found.Nodup ∧
          ∀ all, store.getAll database collection = .ok all → ∀ document ∈ all,
            filter.matches document = true → ∃! number, document ∈ page number := by
  refine ⟨fun skip limit positive => ?_, count_eq_length_find filter sort, fun size positive => ?_⟩
  · obtain ⟨pipeline, read, runs⟩ := findPipeline_run accepted sort skip positive
    refine ⟨pipeline, read, ?_⟩
    rw [aggregate, Service.find_eq_getAll, funext runs]
  · split
    · rename_i error unreadable
      intro number
      rw [findPage_eq positive, unreadable]
      rfl
    · rename_i found read
      exact pages_of_found reachable positive read

/-- The ways agree on a collection that three documents have been inserted into. -/
theorem read_paths_agree_on_numbers :
    let numbered : Int → Json := fun n => .object [("n", .number (.integer n))]
    let store := DocumentStore.after
      { backend := .file .empty, compression := {}, immutable := .empty, ids := ⟨0, toString⟩ }
      (.call (.insertMany "d" "c" [numbered 1, numbered 2, numbered 3]))
    let value : Json := .object [("n", .object [("$gte", .number (.integer 2))])]
    let filter : Filter := .field "n" (.ordered .atLeast (.number (.integer 2)))
    let sort : SortKey := ⟨"n", .descending⟩
    store.Reachable ∧ readStoreFilter value = .ok filter ∧
      (∃ pipeline, readStorePipeline (findPipeline value (some sort) 1 2) = .ok pipeline ∧
        store.aggregate "d" "c" pipeline =
          store.find "d" "c" filter { skip := 1, limit := some 2, sort := some sort }) ∧
      store.count "d" "c" filter =
        (store.find "d" "c" filter { sort := some sort }).map List.length := by
  intro numbered store value filter sort
  have regular : ∀ body ∈ [numbered 1, numbered 2, numbered 3], ∃ levels, body.Regular levels := by
    intro body inBodies
    refine ⟨1, ?_⟩
    simp only [List.mem_cons, List.not_mem_nil, or_false] at inBodies
    rcases inBodies with rfl | rfl | rfl <;>
    · refine .object (by decide) fun member inMembers => ?_
      obtain rfl := List.mem_singleton.mp inMembers
      exact .number _ (by decide)
  have reachable : store.Reachable :=
    .operated (.opened (.inr rfl) {} .empty ⟨0, toString⟩) _ regular
  have accepted : readStoreFilter value = .ok filter := by
    simp [value, filter, readStoreFilter, Filter.ofJson, readFilter, readMembers, readCondition,
      readOperators, shape, checkOperators, isOperatorKey, Filter.maxDepth, Keyed.get?,
      joinPredicates, joinFilters, bind, Except.bind, Except.map, Except.mapError]
  obtain ⟨aggregated, counted, -⟩ := read_paths_agree reachable accepted "d" "c" (some sort)
  exact ⟨reachable, accepted, aggregated 1 2 (by decide), counted⟩

end DocumentStore

end DocumentGateway

import DocumentGateway.Proofs.Store.Writing

/-!
# A store is a catalogue

Over either backend, and whatever bodies are brought, a store answers every run of calls as
the catalogue does whose documents are read through the text they are stored as. So all that
can come between the store and the plain catalogue is a document that is read differently
from what was stored. Bodies that are exact leave no such document, and a single body that is
not exact does.
-/
namespace DocumentGateway

namespace Represents

variable {store : DocumentStore} {catalog : Catalog} (represented : Represents store catalog)

include represented

/-- Every call is answered as the catalogue answers it, with documents read as the store
reads them. -/
theorem perform_agrees (call : StoreCall) :
    (store.perform call).1 = (catalog.perform store.compression.reread call).1 ∧
      Represents (store.perform call).2 (catalog.perform store.compression.reread call).2 := by
  cases call with
  | insert database collection given body =>
    obtain ⟨same, after⟩ := represented.insert_agrees given body
    exact ⟨congrArg StoreAnswer.document same, after⟩
  | insertMany database collection bodies =>
    obtain ⟨same, after⟩ := represented.insertMany_agrees bodies
    exact ⟨congrArg StoreAnswer.ids same, after⟩
  | get database collection id =>
    exact ⟨congrArg StoreAnswer.found (represented.get_eq id), represented⟩
  | getAll database collection =>
    exact ⟨congrArg StoreAnswer.documents represented.getAll_eq, represented⟩
  | replace database collection id body =>
    obtain ⟨same, after⟩ := represented.replace_agrees id body
    exact ⟨congrArg StoreAnswer.found same, after⟩
  | delete database collection id =>
    obtain ⟨same, after⟩ := represented.delete_agrees id
    exact ⟨congrArg StoreAnswer.decided same, after⟩
  | count database collection filter =>
    exact ⟨congrArg StoreAnswer.counted (represented.count_eq filter), represented⟩
  | collectionExists database collection =>
    exact ⟨congrArg StoreAnswer.decided represented.collectionExists_eq, represented⟩
  | dropCollection database collection =>
    obtain ⟨same, after⟩ := represented.dropCollection_agrees
    exact ⟨congrArg StoreAnswer.decided same, after⟩
  | listCollections database =>
    exact ⟨congrArg StoreAnswer.named represented.listCollections_eq, represented⟩

omit represented in
/-- No call changes how documents are packed. -/
theorem compression_perform (call : StoreCall) :
    (store.perform call).2.compression = store.compression := by
  cases call with
  | insert database collection given body =>
    change (store.insert database collection given body).2.compression = _
    unfold DocumentStore.insert
    split
    · rfl
    · simp only
      split <;> rfl
  | insertMany database collection bodies =>
    change (store.insertMany database collection bodies).2.compression = _
    unfold DocumentStore.insertMany
    simp only
    split
    · rfl
    · rfl
    · split <;> rfl
  | replace database collection id body =>
    change (store.replace database collection id body).2.compression = _
    unfold DocumentStore.replace
    simp only
    split
    · rfl
    · split <;> rfl
  | delete database collection id =>
    change (store.delete database collection id).2.compression = _
    unfold DocumentStore.delete
    split <;> rfl
  | dropCollection database collection =>
    change (store.dropCollection database collection).2.compression = _
    unfold DocumentStore.dropCollection
    split <;> rfl
  | _ => rfl

/-- Every run of calls is answered as the catalogue answers it, with documents read as the
store reads them. -/
theorem answers_agree (calls : List StoreCall) :
    store.answers calls = catalog.answers store.compression.reread calls := by
  induction calls generalizing store catalog with
  | nil => rfl
  | cons call rest inductionHypothesis =>
    obtain ⟨same, after⟩ := represented.perform_agrees call
    have following := inductionHypothesis after
    rw [compression_perform] at following
    rw [DocumentStore.answers, Catalog.answers, same, following]

end Represents

/-! ## Catalogues that are read as they are -/

namespace Catalog

/-- Every document of a catalogue is read as it is. -/
def Faithful (read : Document → Except StoreError Document) (catalog : Catalog) : Prop :=
  ∀ entry ∈ catalog.entries, read entry.document = .ok entry.document

/-- A body whose document is read as it is, under every identifier. -/
def ReadAsIs (read : Document → Except StoreError Document) (body : Json) : Prop :=
  ∀ members, body = .object members → ∀ id, read (withId id members) = .ok (withId id members)

variable {read : Document → Except StoreError Document} {catalog : Catalog}

/-- Documents that are each read as they are are read as they are together. -/
theorem mapM_read {documents : List Document}
    (each : ∀ document ∈ documents, read document = .ok document) :
    documents.mapM read = documents.mapM .ok := by
  induction documents with
  | nil => rfl
  | cons document rest inductionHypothesis =>
    obtain ⟨first, others⟩ := List.forall_mem_cons.mp each
    rw [List.mapM_cons, List.mapM_cons, first, inductionHypothesis others]

/-- Of documents that are read as they are, a call is answered as of the documents. -/
theorem perform_faithful (faithful : catalog.Faithful read) (call : StoreCall) :
    catalog.perform read call = catalog.perform .ok call := by
  have found : ∀ database collection id, (catalog.find? database collection id).mapM read =
      (catalog.find? database collection id).mapM .ok := by
    intro database collection id
    cases search : catalog.find? database collection id with
    | none => rfl
    | some document =>
      obtain ⟨entry, inEntries, rfl⟩ := Option.map_eq_some_iff.mp search
      have same := faithful entry (List.mem_of_find?_eq_some inEntries)
      simp only [Option.mapM, same]
  have listed : ∀ database collection, (catalog.listed database collection).mapM read =
      (catalog.listed database collection).mapM .ok := by
    refine fun database collection => mapM_read fun document inListed => ?_
    obtain ⟨entry, inSorted, rfl⟩ := List.mem_map.mp inListed
    exact faithful entry (mem_within_iff.mp (List.mem_mergeSort.mp inSorted)).1
  cases call with
  | get database collection id => simp only [perform, found]
  | getAll database collection => simp only [perform, listed]
  | count database collection filter => simp only [perform, listed]
  | _ => rfl

/-- A catalogue stays faithful when documents are put in that are read as they are. -/
theorem faithful_put (faithful : catalog.Faithful read) (database collection : String)
    {items : List (String × Document)} (each : ∀ item ∈ items, read item.2 = .ok item.2) :
    (catalog.put database collection items).Faithful read := by
  intro entry member
  rcases List.mem_append.mp member with old | new
  · exact faithful entry old
  · obtain ⟨item, inItems, rfl⟩ := List.mem_map.mp new
    exact each item inItems

/-- A catalogue stays faithful when entries are left out. -/
theorem faithful_keep (faithful : catalog.Faithful read) (test : Entry → Bool) :
    (catalog.keep test).Faithful read :=
  fun entry member => faithful entry (List.mem_filter.mp member).1

/-- A call that brings only bodies that are read as they are adds no other documents. -/
theorem faithful_perform (faithful : catalog.Faithful read) (call : StoreCall)
    (bodies : ∀ body ∈ call.bodies, ReadAsIs read body) :
    (catalog.perform .ok call).2.Faithful read := by
  cases call with
  | insert database collection given body =>
    change (catalog.insert database collection given body).2.Faithful read
    unfold insert
    cases prepared : catalog.item database collection given body with
    | error error => exact faithful
    | ok item =>
      obtain ⟨members, rfl, stored⟩ := item_ok prepared
      refine faithful_put faithful database collection fun other member => ?_
      obtain rfl := List.mem_singleton.mp member
      rw [stored]
      exact bodies _ (List.mem_singleton_self _) members rfl _
  | insertMany database collection given =>
    change (catalog.insertMany database collection given).2.Faithful read
    unfold insertMany
    cases prepared : catalog.items database collection given with
    | error error => exact faithful
    | ok items =>
      refine faithful_put faithful database collection fun item member => ?_
      obtain ⟨members, inBodies, stored⟩ := items_ok prepared item member
      rw [stored]
      exact bodies _ inBodies members rfl _
  | replace database collection id body =>
    change (catalog.replace database collection id body).2.Faithful read
    unfold replace
    cases prepared : catalog.replacement database collection id body with
    | error error => exact faithful
    | ok document =>
      obtain ⟨members, rfl, rfl⟩ := replacement_ok prepared
      simp only
      split
      · intro entry member
        obtain ⟨old, inEntries, rfl⟩ := List.mem_map.mp member
        unfold Entry.updated
        split
        · exact bodies _ (List.mem_singleton_self _) members rfl id
        · exact faithful old inEntries
      · exact faithful
  | delete database collection id =>
    change (catalog.delete database collection id).2.Faithful read
    unfold delete
    split
    · exact faithful
    · exact faithful_keep faithful _
  | dropCollection database collection =>
    change (catalog.dropCollection database collection).2.Faithful read
    unfold dropCollection
    split
    · exact faithful
    · exact faithful_keep faithful _
  | _ => exact faithful

/-- A run of calls that bring only bodies that are read as they are is answered as if the
documents were. -/
theorem answers_faithful (faithful : catalog.Faithful read) (calls : List StoreCall)
    (bodies : ∀ call ∈ calls, ∀ body ∈ call.bodies, ReadAsIs read body) :
    catalog.answers read calls = catalog.answers .ok calls := by
  induction calls generalizing catalog with
  | nil => rfl
  | cons call rest inductionHypothesis =>
    obtain ⟨callBodies, restBodies⟩ := List.forall_mem_cons.mp bodies
    rw [answers, answers, perform_faithful faithful call,
      inductionHypothesis (faithful_perform faithful call callBodies) restBodies]

end Catalog

/-! ## Stores that are empty at first -/

/-- A backend of either kind that nothing has been put into. -/
def Backend.Fresh {α : Type} (backend : Backend α) : Prop :=
  backend = .memory .empty ∨ backend = .file .empty

/-- The catalogue without documents. -/
def Catalog.empty (immutable : ImmutableSet) (ids : IdSupply) : Catalog :=
  { entries := [], immutable, ids }

/-- A store over a fresh backend represents the empty catalogue. -/
theorem represents_empty {backend : Backend Stored} (fresh : backend.Fresh)
    (compression : Compression) (immutable : ImmutableSet) (ids : IdSupply) :
    Represents { backend, compression, immutable, ids } (.empty immutable ids) where
  immutable := rfl
  ids := rfl
  sound := by
    rcases fresh with rfl | rfl
    · exact NestedTable.sound_empty
    · exact FlatTable.sound_empty
  unique := List.nodup_nil
  valid := by simp [Catalog.empty]
  found := by
    intro space key stored named
    have nothing : backend.get? space key = none := by
      rcases fresh with rfl | rfl <;> rfl
    simp [nothing, Catalog.empty]

/-- A document that is stored and read again is answered as it is only if its body is
exact. -/
theorem exact_of_answers (compression : Compression) (ids : IdSupply) {members : Document}
    (regular : (Json.object members).Regular Json.maxDepth)
    (same : (Catalog.empty .empty ids).answers compression.reread
        [.insert "d" "c" (some "a") (.object members), .get "d" "c" "a"] =
      (Catalog.empty .empty ids).answers .ok
        [.insert "d" "c" (some "a") (.object members), .get "d" "c" "a"]) :
    (Json.object members).Exact := by
  have answered : ∀ read, (Catalog.empty .empty ids).answers read
      [.insert "d" "c" (some "a") (.object members), .get "d" "c" "a"] =
      [.document (.ok (withId "a" members)), .found ((read (withId "a" members)).map some)] :=
    fun read => rfl
  rw [answered, answered] at same
  have read : (compression.reread (withId "a" members)).map some =
      .ok (some (withId "a" members)) := by simpa [Except.map] using same
  refine (compression.reread_withId_iff regular "a").mp ?_
  cases outcome : compression.reread (withId "a" members) with
  | error error => simp [outcome, Except.map] at read
  | ok document => simpa [outcome, Except.map] using read

/-- A store over a fresh backend of either kind, with any packing and any supply of
identifiers, answers all runs of calls as the catalogue whose documents are read through
their text. It answers them as the plain catalogue, whatever collections are immutable,
exactly if the bodies that are allowed in calls are exact. -/
theorem store_is_catalog_iff {backend : Backend Stored} (fresh : backend.Fresh)
    (compression : Compression) (ids : IdSupply) (allowed : Json → Prop)
    (regular : ∀ body, allowed body → body.Regular Json.maxDepth) :
    (∀ immutable calls, DocumentStore.answers { backend, compression, immutable, ids } calls =
        (Catalog.empty immutable ids).answers compression.reread calls) ∧
      ((∀ immutable calls, (∀ call : StoreCall, call ∈ calls → ∀ body ∈ call.bodies, allowed body) →
          DocumentStore.answers { backend, compression, immutable, ids } calls =
            (Catalog.empty immutable ids).answers .ok calls) ↔
        ∀ body, allowed body → body.Exact) := by
  have through : ∀ immutable calls,
      DocumentStore.answers { backend, compression, immutable, ids } calls =
        (Catalog.empty immutable ids).answers compression.reread calls :=
    fun immutable calls => (represents_empty fresh compression immutable ids).answers_agree calls
  refine ⟨through, ?_, ?_⟩
  · rintro same body isAllowed members rfl
    have plain := same .empty
      [.insert "d" "c" (some "a") (.object members), .get "d" "c" "a"] (by
        intro call member body inBodies
        rcases List.mem_cons.mp member with rfl | later
        · obtain rfl := List.mem_singleton.mp inBodies
          exact isAllowed
        · obtain rfl := List.mem_singleton.mp later
          cases inBodies)
    rw [through] at plain
    exact exact_of_answers compression ids (regular _ isAllowed) plain members rfl
  · intro allExact immutable calls allAllowed
    rw [through]
    refine Catalog.answers_faithful (by simp [Catalog.Faithful, Catalog.empty]) calls ?_
    intro call member body inBodies members same id
    have isAllowed := allAllowed call member body inBodies
    subst same
    exact (compression.reread_withId_iff (regular _ isAllowed) id).mpr (allExact _ isAllowed)

/-- Calls whose only body holds a whole number are answered as by the catalogue. -/
theorem store_is_catalog_of_counter :
    let body : Json := .object [("n", .number (.integer 1))]
    let ids : IdSupply := ⟨0, fun number => "id-" ++ toString number⟩
    Backend.Fresh (.file .empty : Backend Stored) ∧ body.Regular Json.maxDepth ∧
      ∀ immutable calls, (∀ call : StoreCall, call ∈ calls → ∀ other ∈ call.bodies, other = body) →
        DocumentStore.answers { backend := .file .empty, compression := {}, immutable, ids } calls =
          (Catalog.empty immutable ids).answers .ok calls := by
  intro body ids
  have fresh : Backend.Fresh (.file .empty : Backend Stored) := .inr rfl
  have regular : body.Regular Json.maxDepth := by
    refine .object (by simp [Keyed.keys]) fun member inMembers => ?_
    obtain rfl := List.mem_singleton.mp inMembers
    exact .number _ (by decide)
  have exactBody : body.Exact := by
    intro members same member inMembers
    obtain rfl := Json.object.inj same
    obtain rfl := List.mem_singleton.mp inMembers
    simp [Json.reals]
  have agree := (store_is_catalog_iff fresh {} ids (· = body) (by rintro _ rfl; exact regular)).2
  exact ⟨fresh, regular, agree.mpr (by rintro _ rfl; exact exactBody)⟩

/-- A floating-point number that is read from its text as its upper neighbour is answered
differently when it is stored and when it is read. -/
theorem drifting_number_disagrees :
    let body : Json := .object [("x", .number (.real (Float.ofBits 0x3e74cd1f646da31c)))]
    let calls : List StoreCall := [.insert "d" "c" (some "a") body, .get "d" "c" "a"]
    let ids : IdSupply := ⟨0, fun number => "id-" ++ toString number⟩
    body.Regular Json.maxDepth ∧
      DocumentStore.answers
          { backend := .memory .empty, compression := {}, immutable := .empty, ids } calls ≠
        (Catalog.empty .empty ids).answers .ok calls := by
  intro body calls ids
  have regular : body.Regular Json.maxDepth := by
    refine .object (by simp [Keyed.keys]) fun member inMembers => ?_
    obtain rfl := List.mem_singleton.mp inMembers
    exact .number _ (by decide)
  refine ⟨regular, fun same => ?_⟩
  rw [(represents_empty (.inl rfl) {} .empty ids).answers_agree calls] at same
  have back : Decimal.ReadsBack (Float.ofBits 0x3e74cd1f646da31c) :=
    exact_of_answers {} ids regular same _ rfl _ (List.mem_singleton_self _) (by decide) _
      (List.mem_singleton_self _)
  have bits := congrArg (fun read => read.map fun number => number.toFloat.toBits) back
  exact absurd bits (by decide)

end DocumentGateway

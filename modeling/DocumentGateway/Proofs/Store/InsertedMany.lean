import DocumentGateway.Proofs.Store.Reachable

/-!
# Batches that were inserted

A collection can be read exactly if each value under its address can, and then it shows what
is read of them. So after a batch whose texts can be read has been inserted into a collection
that can be read, it can still be read, and shows what is read of the document of each body.
-/
namespace DocumentGateway

open FlatTable (NulFree)
open SortedMap (lookup)

/-! ## What is read of a collection -/

/-- The values of a namespace are those that are found under its keys. -/
theorem Backend.mem_values_iff {α : Type} (backend : Backend α) (space : String) (value : α) :
    value ∈ backend.values space ↔ ∃ key, backend.get? space key = some value := by
  constructor
  · intro member
    obtain ⟨entries, values, -, found⟩ := backend.values_keyed space
    rw [values] at member
    obtain ⟨entry, inEntries, rfl⟩ := List.mem_map.mp member
    exact ⟨entry.1, found entry inEntries⟩
  · rintro ⟨key, found⟩
    cases backend with
    | memory table =>
      exact List.mem_map_of_mem ((SortedMap.mem_entries_iff (table.records space) key value).mpr found)
    | file table =>
      have inside : (table.within space).get? (FlatTable.recordKey space key) = some value := by
        rw [FlatTable.within, SortedMap.get?_filterKeys,
          if_pos ((FlatTable.isWithin_iff space _).mpr ⟨key, rfl⟩)]
        exact found
      exact List.mem_map_of_mem ((SortedMap.mem_entries_iff _ _ _).mpr inside)

namespace DocumentStore

variable {store : DocumentStore} {database collection space : String}

/-- A value under the address of a collection that has been read can be read itself. -/
theorem decode_of_getAll {documents : List Document}
    (checked : checkedAddress database collection = .ok space)
    (read : store.getAll database collection = .ok documents) {key : String} {stored : Stored}
    (found : store.backend.get? space key = some stored) :
    ∃ document, store.compression.decode stored = .ok document := by
  rw [getAll, checked] at read
  exact mapM_isOk_iff.mp ⟨documents, read⟩ stored
    ((store.backend.mem_values_iff space stored).mpr ⟨key, found⟩)

/-- A collection can be read if each value under its address can, and shows what is read. -/
theorem getAll_of_decode (checked : checkedAddress database collection = .ok space)
    (each : ∀ key stored, store.backend.get? space key = some stored →
      ∃ document, store.compression.decode stored = .ok document) :
    ∃ documents, store.getAll database collection = .ok documents ∧
      ∀ document, document ∈ documents ↔ ∃ key stored,
        store.backend.get? space key = some stored ∧
          store.compression.decode stored = .ok document := by
  have readable : ∀ stored ∈ store.backend.values space,
      ∃ document, store.compression.decode stored = .ok document := by
    intro stored member
    obtain ⟨key, found⟩ := (store.backend.mem_values_iff space stored).mp member
    exact each key stored found
  obtain ⟨documents, loaded⟩ := mapM_isOk_iff.mpr readable
  refine ⟨documents, ?_, fun document => ?_⟩
  · rw [getAll, checked]
    exact loaded
  · rw [mem_of_mapM loaded]
    simp only [Backend.mem_values_iff]
    constructor
    · rintro ⟨stored, ⟨key, found⟩, decoded⟩
      exact ⟨key, stored, found, decoded⟩
    · rintro ⟨key, stored, found, decoded⟩
      exact ⟨stored, ⟨key, found⟩, decoded⟩

/-! ## What a batch stores -/

/-- The identifier that a document is stored under is the one it brings, if it brings one. -/
def Brought (members : Document) (id : String) : Prop :=
  Keyed.get? "_id" members = none ∨ Keyed.get? "_id" members = some .null ∨
    Keyed.get? "_id" members = some (.string id)

/-- A document that brings an identifier is stored under it, and another one under the spare one.
-/
theorem brought_of_ownId {members : Document} {own : Option String}
    (read : ownId members = .ok own) (spare : String) : Brought members (own.getD spare) := by
  unfold ownId at read
  split at read
  · rename_i absent
    exact .inl absent
  · rename_i null
    exact .inr (.inl null)
  · rename_i id given
    obtain ⟨_, -, rfl⟩ := map_eq_ok_iff.mp read
    exact .inr (.inr given)
  · cases read

/-- What a document holds under a key is stored with it, unless it is a null in the place of the
identifier. -/
theorem get?_withId {members : Document} {id name : String} {value : Json}
    (brought : Brought members id) (given : Keyed.get? name members = some value)
    (notNull : value ≠ .null) : Keyed.get? name (withId id members) = some value := by
  by_cases ofId : name = "_id"
  · subst ofId
    have same : Keyed.get? "_id" members = some (.string id) := by
      rcases brought with absent | null | present
      · exact nomatch absent.symm.trans given
      · exact absurd (Option.some.inj (given.symm.trans null)) notNull
      · exact present
    rw [withId, Keyed.get?, if_pos rfl, ← same, given]
  · rw [withId, Keyed.get?, if_neg (Ne.symm ofId), Keyed.get?_filter (· != "_id"),
      if_pos (by simpa using ofId), given]

/-- Each item that is prepared for a batch is the document of a body. -/
theorem prepareItems_forall₂ {bodies : List Json} {number : Nat} {seen : List String}
    {items : List (String × Document)}
    (prepared : store.prepareItems collection number seen bodies = .ok items) :
    List.Forall₂ (fun body item => ∃ members, body = .object members ∧
      Brought members item.1 ∧ item.2 = withId item.1 members) bodies items := by
  induction bodies generalizing number seen items with
  | nil =>
    obtain rfl : [] = items := by simpa [prepareItems] using prepared
    exact .nil
  | cons body rest inductionHypothesis =>
    cases body with
    | object members =>
      simp only [prepareItems, bind_eq_ok_iff] at prepared
      obtain ⟨_, ⟨⟩, own, brought, made⟩ := prepared
      split at made
      · cases made
      · obtain ⟨others, preparedRest, same⟩ := bind_eq_ok_iff.mp made
        obtain rfl := Except.ok.inj same
        exact .cons ⟨members, rfl, brought_of_ownId brought _, rfl⟩
          (inductionHypothesis preparedRest)
    | _ => cases prepared

/-- A batch that has been inserted is found in the backend, besides what was there before. -/
theorem insertMany_ok {bodies : List Json} {ids : List String} {after : DocumentStore}
    (inserted : store.insertMany database collection bodies = (.ok ids, after)) :
    ∃ space items, checkedAddress database collection = .ok space ∧
      store.prepareItems collection 0 [] bodies = .ok items ∧ (items.map Prod.fst).Nodup ∧
      ids = items.map Prod.fst ∧ after.compression = store.compression ∧
      ∀ key, after.backend.get? space key =
        (lookup key (store.compression.records items)).or (store.backend.get? space key) := by
  have ready : ∀ {space items}, (do
      let space ← store.writableAddress database collection
      let items ← store.prepareItems collection 0 [] bodies
      Except.ok (space, items)) = .ok (space, items) →
      checkedAddress database collection = .ok space ∧
        store.prepareItems collection 0 [] bodies = .ok items := by
    intro space items prepared
    simp only [DocumentStore.writableAddress, bind_eq_ok_iff] at prepared
    obtain ⟨_, ⟨_, checked, _, -, ⟨⟩⟩, _, itemsPrepared, ⟨⟩⟩ := prepared
    exact ⟨checked, itemsPrepared⟩
  unfold insertMany at inserted
  dsimp only at inserted
  split at inserted
  · cases inserted
  · rename_i space prepared
    obtain ⟨checked, itemsPrepared⟩ := ready prepared
    obtain ⟨⟨⟩, rfl⟩ := Prod.mk.inj inserted
    exact ⟨space, [], checked, itemsPrepared, List.nodup_nil, rfl, rfl, fun key => rfl⟩
  · rename_i space item items prepared
    obtain ⟨checked, itemsPrepared⟩ := ready prepared
    have distinct := prepareItems_distinct itemsPrepared
    have named := nulFree_of_checkedAddress checked
    split at inserted
    · cases inserted
    · rename_i backend stored
      obtain ⟨⟨⟩, rfl⟩ := Prod.mk.inj inserted
      refine ⟨space, item :: items, checked, itemsPrepared, distinct, rfl, rfl, fun key => ?_⟩
      have contents := (Backend.insertNew_ok named
        ((store.compression.keys_records (item :: items)).symm ▸ distinct) stored).2
      exact (contents space key named).trans (if_pos rfl)

/-- The documents of a batch that has been inserted are stored under the identifiers they
bring. -/
theorem brought_of_insertMany {bodies : List Json} {ids : List String} {after : DocumentStore}
    (inserted : store.insertMany database collection bodies = (.ok ids, after)) :
    List.Forall₂ (fun body id => ∃ members, body = .object members ∧ Brought members id) bodies ids := by
  obtain ⟨space, items, -, prepared, -, rfl, -, -⟩ := insertMany_ok inserted
  refine List.forall₂_map_right_iff.mpr ((prepareItems_forall₂ prepared).imp ?_)
  exact fun body item ⟨members, object, brought, _⟩ => ⟨members, object, brought⟩

/-- The text of a document with its identifier can be read if the text of the document can. -/
theorem exists_reread_withId {members read : Document}
    (legible : Json.rereadMembers? members = some read) (id : String) :
    ∃ shown, Json.rereadMembers? (withId id members) = some shown := by
  refine Json.exists_rereadMembers?.mpr (List.forall_mem_cons.mpr ⟨⟨.string id, rfl⟩, ?_⟩)
  exact fun member kept =>
    Json.exists_rereadMembers?.mp ⟨read, legible⟩ member (List.mem_filter.mp kept).1

/-- After a batch whose texts can be read has been inserted into a collection that could be
read, the collection can still be read, and shows what is read of each document. -/
theorem getAll_of_insertMany {bodies : List Json} {ids : List String} {before : List Document}
    {after : DocumentStore}
    (inserted : store.insertMany database collection bodies = (.ok ids, after))
    (readable : store.getAll database collection = .ok before)
    (regular : ∀ body ∈ bodies, body.Regular Json.maxDepth)
    (legible : ∀ members, .object members ∈ bodies →
      ∃ read, Json.rereadMembers? members = some read) :
    ∃ documents, after.getAll database collection = .ok documents ∧
      List.Forall₂ (fun body id => ∃ members, body = .object members ∧
        ∃ shown ∈ documents, Json.rereadMembers? (withId id members) = some shown) bodies ids := by
  obtain ⟨space, items, checked, prepared, distinct, rfl, codec, contents⟩ := insertMany_ok inserted
  have made := prepareItems_forall₂ prepared
  have decoded : ∀ item ∈ items, ∃ shown, Json.rereadMembers? item.2 = some shown ∧
      store.compression.decode (store.compression.encode item.2) = .ok shown := by
    intro item member
    obtain ⟨members, inBodies, document⟩ := store.prepareItems_body collection prepared item member
    obtain ⟨read, membersRead⟩ := legible members inBodies
    obtain ⟨shown, itemRead⟩ := exists_reread_withId membersRead item.1
    have reread := store.compression.reread_eq (regular_withId (regular _ inBodies) item.1)
    rw [itemRead, Compression.reread] at reread
    exact ⟨shown, document ▸ itemRead, document ▸ reread⟩
  have each : ∀ key stored, after.backend.get? space key = some stored →
      ∃ document, after.compression.decode stored = .ok document := by
    intro key stored found
    rw [contents] at found
    rw [codec]
    rcases Option.or_eq_some_iff.mp found with brought | ⟨-, earlier⟩
    · obtain ⟨item, member, -, rfl⟩ :=
        (store.compression.lookup_records_eq_some_iff distinct).mp brought
      obtain ⟨shown, -, itemDecoded⟩ := decoded item member
      exact ⟨shown, itemDecoded⟩
    · exact decode_of_getAll checked readable earlier
  obtain ⟨documents, shown, mem_documents⟩ := getAll_of_decode checked each
  refine ⟨documents, shown, List.forall₂_map_right_iff.mpr (List.forall₂_iff_zip.mpr
    ⟨made.length_eq, fun {body item} paired => ?_⟩)⟩
  obtain ⟨members, object, -, document⟩ := List.forall₂_zip made paired
  have member : item ∈ items := (List.of_mem_zip paired).2
  obtain ⟨read, itemRead, itemDecoded⟩ := decoded item member
  refine ⟨members, object, read, (mem_documents _).mpr
    ⟨item.1, store.compression.encode item.2, ?_, codec ▸ itemDecoded⟩, document ▸ itemRead⟩
  have stored := (store.compression.lookup_records_eq_some_iff distinct).mpr ⟨item, member, rfl, rfl⟩
  rw [contents, stored, Option.some_or]

end DocumentStore

end DocumentGateway

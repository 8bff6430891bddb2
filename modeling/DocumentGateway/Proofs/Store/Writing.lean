import DocumentGateway.Proofs.Store.Representation

/-!
# Writes to a store and to its catalogue

Every call that writes to a store that represents a catalogue is answered as the catalogue
answers it, and leaves a store that represents the changed catalogue. The documents
themselves do not matter here, so nothing is asked of them.
-/
namespace DocumentGateway

open FlatTable (NulFree)
open SortedMap (lookup)

/-- A refusal at the address of a collection names the collection. -/
theorem takenId_address {database : String} (validDatabase : ValidName database)
    (collection id : String) :
    takenId (address database collection) id = .duplicateId id collection := by
  rw [takenId, toList_address, Text.cutAt?_singleton_append _ validDatabase.slashFree]
  simp

/-- A store and a catalogue with the same immutable collections refuse the same writes. -/
theorem writableAddress_eq {store : DocumentStore} {catalog : Catalog}
    (immutable : store.immutable = catalog.immutable) (database collection : String) :
    store.writableAddress database collection =
      (catalog.checkWritable database collection).map fun _ => address database collection := by
  unfold DocumentStore.writableAddress Catalog.checkWritable
  rw [checkedAddress_eq, immutable]
  cases Catalog.checkNames database collection with
  | error error => rfl
  | ok _ => cases catalog.immutable.check database collection <;> rfl

/-- The names of a collection that may be written to are valid. -/
theorem checkWritable_ok {catalog : Catalog} {database collection : String}
    (writable : catalog.checkWritable database collection = .ok ()) :
    ValidName database ∧ ValidName collection := by
  obtain ⟨_, names, -⟩ := bind_eq_ok_iff.mp writable
  exact checkNames_ok names

/-- The entry of an item that is put into a collection. -/
abbrev Catalog.Entry.ofItem (database collection : String) (item : String × Document) : Entry :=
  ⟨database, collection, item.1, item.2⟩

/-! ## Records of items -/

/-- The records that items are stored as. -/
abbrev Compression.records (compression : Compression) (items : List (String × Document)) :
    List (String × Stored) :=
  items.map fun (id, document) => (id, compression.encode document)

/-- Items are stored under their identifiers. -/
theorem Compression.keys_records (compression : Compression) (items : List (String × Document)) :
    (compression.records items).map Prod.fst = items.map Prod.fst := by
  simp [Function.comp_def]

/-- A record is found under the identifier of its item. -/
theorem Compression.lookup_records_eq_some_iff (compression : Compression)
    {items : List (String × Document)} (distinct : (items.map Prod.fst).Nodup) {key : String}
    {stored : Stored} :
    lookup key (compression.records items) = some stored ↔
      ∃ item ∈ items, item.1 = key ∧ compression.encode item.2 = stored := by
  rw [SortedMap.lookup_eq_some_iff ((compression.keys_records items).symm ▸ distinct), List.mem_map]
  simp [Prod.ext_iff]

/-! ## Batches of bodies -/

/-- The store prepares the documents of a batch from the front with the identifiers seen so
far, the catalogue joins them one by one. -/
theorem prepareItems_eq (store : DocumentStore) (collection : String) (bodies : List Json) :
    ∀ number seen before, (∀ id, id ∈ seen ↔ id ∈ before.map Prod.fst) →
      (bodies.zipIdx number).foldlM (Catalog.joinItem store.ids collection) before =
        (store.prepareItems collection number seen bodies).map (before ++ ·) := by
  induction bodies with
  | nil =>
    intro number seen before same
    simp [DocumentStore.prepareItems, Except.map, pure, Except.pure]
  | cons body rest inductionHypothesis =>
    intro number seen before same
    rw [List.zipIdx_cons, List.foldlM_cons]
    cases body with
    | object document =>
      simp only [DocumentStore.prepareItems, Catalog.joinItem, bind, Except.bind]
      cases brought : ownId document with
      | error error => rfl
      | ok own =>
        dsimp only
        generalize own.getD (store.ids.id (store.ids.given + number)) = id
        by_cases repeated : id ∈ seen
        · simp [repeated, (same id).mp repeated, Except.map]
        · have fresh : id ∉ before.map Prod.fst := mt (same id).mpr repeated
          have sameNow : ∀ other, other ∈ id :: seen ↔
              other ∈ (before ++ [(id, withId id document)]).map Prod.fst := by
            intro other
            simp [same other, or_comm]
          have following := inductionHypothesis (number + 1) (id :: seen)
            (before ++ [(id, withId id document)]) sameNow
          simp only [List.contains_iff_mem, repeated, fresh, if_false, following]
          cases store.prepareItems collection (number + 1) (id :: seen) rest <;> simp [Except.map]
    | _ => rfl

/-- The documents of a batch have different identifiers. -/
theorem prepareItems_distinct {store : DocumentStore} {collection : String} {bodies : List Json}
    {items : List (String × Document)}
    (prepared : store.prepareItems collection 0 [] bodies = .ok items) :
    (items.map Prod.fst).Nodup := by
  have joined := prepareItems_eq store collection bodies 0 [] [] (by simp)
  rw [prepared] at joined
  exact (Catalog.joinItem_foldlM joined).1 List.nodup_nil

namespace Represents

variable {store : DocumentStore} {catalog : Catalog} (represented : Represents store catalog)
variable {database collection : String}

include represented

/-- Setting identifiers aside changes no document. -/
theorem setAside (count : Nat) : Represents (store.setAside count) (catalog.setAside count) :=
  { represented with
    ids := by
      simp only [DocumentStore.setAside, Catalog.setAside, represented.ids] }

/-- An entry is at a place exactly if it has the address and the identifier of the place. -/
theorem place_eq_iff {entry : Catalog.Entry} {id : String} (member : entry ∈ catalog.entries)
    (validDatabase : ValidName database) :
    entry.place = (database, collection, id) ↔
      address database collection = entry.space ∧ id = entry.id := by
  rw [eq_comm (a := address database collection), represented.space_eq_iff member validDatabase]
  simp [Catalog.Entry.place, and_assoc, eq_comm (a := id)]

/-! ## Insertions -/

/-- A free identifier is that of no entry of the collection. -/
theorem place_ne_of_free {id : String} (free : catalog.find? database collection id = none) :
    ∀ entry ∈ catalog.entries, entry.place ≠ (database, collection, id) := by
  rintro ⟨entryDatabase, entryCollection, entryId, document⟩ member place
  obtain ⟨rfl, rfl, rfl⟩ : entryDatabase = database ∧ entryCollection = collection ∧
      entryId = id := by simpa [Catalog.Entry.place] using place
  have found := (Catalog.find?_eq_some_iff represented.unique _ _ _ _).mpr member
  rw [free] at found
  cases found

/-- Documents with free and different identifiers are put into the backend and into the
catalogue. -/
theorem put {items : List (String × Document)} {after : Backend Stored}
    (validDatabase : ValidName database) (validCollection : ValidName collection)
    (distinct : (items.map Prod.fst).Nodup)
    (free : ∀ item ∈ items, catalog.find? database collection item.1 = none)
    (sound : after.Sound)
    (contents : ∀ other key, NulFree other → after.get? other key =
      if address database collection = other then
        (lookup key (store.compression.records items)).or (store.backend.get? other key)
      else store.backend.get? other key) :
    Represents { store with backend := after } (catalog.put database collection items) where
  immutable := represented.immutable
  ids := represented.ids
  sound := sound
  unique := by
    have places : (items.map (Catalog.Entry.ofItem database collection)).map Catalog.Entry.place =
        (items.map Prod.fst).map fun id => (database, collection, id) := by
      simp [Catalog.Entry.place]
    change ((catalog.entries ++ items.map (Catalog.Entry.ofItem database collection)).map
      Catalog.Entry.place).Nodup
    rw [List.map_append, places]
    refine List.nodup_append.mpr ⟨represented.unique, ?_, ?_⟩
    · exact distinct.map fun _ _ same => (Prod.mk.inj (Prod.mk.inj same).2).2
    · intro place old other new same
      obtain ⟨entry, member, rfl⟩ := List.mem_map.mp old
      obtain ⟨id, inIds, rfl⟩ := List.mem_map.mp new
      obtain ⟨item, inItems, rfl⟩ := List.mem_map.mp inIds
      exact represented.place_ne_of_free (free item inItems) entry member same
  valid := by
    intro entry member
    rcases List.mem_append.mp member with old | new
    · exact represented.valid entry old
    · obtain ⟨item, -, rfl⟩ := List.mem_map.mp new
      exact ⟨validDatabase, validCollection⟩
  found := by
    intro space key stored named
    have inBoth : (∃ entry ∈ (catalog.put database collection items).entries,
        entry.space = space ∧ entry.id = key ∧
          store.compression.encode entry.document = stored) ↔
        (store.backend.get? space key = some stored) ∨
          address database collection = space ∧
            ∃ item ∈ items, item.1 = key ∧ store.compression.encode item.2 = stored := by
      rw [represented.found space key stored named]
      simp only [Catalog.put, List.mem_append, or_and_right, exists_or, List.mem_map]
      refine or_congr Iff.rfl ⟨?_, ?_⟩
      · rintro ⟨entry, ⟨item, member, rfl⟩, space, key, encoded⟩
        exact ⟨space, item, member, key, encoded⟩
      · rintro ⟨space, item, member, key, encoded⟩
        exact ⟨_, ⟨item, member, rfl⟩, space, key, encoded⟩
    change after.get? space key = some stored ↔ _
    rw [inBoth, contents space key named]
    by_cases here : address database collection = space
    · subst here
      rw [if_pos rfl, ← store.compression.lookup_records_eq_some_iff distinct]
      cases new : lookup key (store.compression.records items) with
      | none => simp
      | some value =>
        obtain ⟨item, member, rfl, -⟩ :=
          (store.compression.lookup_records_eq_some_iff distinct).mp new
        have old : store.backend.get? (address database collection) item.1 = none := by
          rw [represented.get?_address validDatabase validCollection, free item member]
          rfl
        simp [old]
    · simp [here]

/-! ## Replacements and removals -/

/-- A document is put in the place of another in the backend and in the catalogue. -/
theorem replaced {id : String} {document : Document} {after : Backend Stored}
    (validDatabase : ValidName database)
    (present : (catalog.find? database collection id).isSome)
    (sound : after.Sound)
    (contents : ∀ other key, NulFree other → after.get? other key =
      if address database collection = other ∧ id = key then
        some (store.compression.encode document)
      else store.backend.get? other key) :
    Represents { store with backend := after }
      { catalog with
        entries := catalog.entries.map (.updated (database, collection, id) document) } where
  immutable := represented.immutable
  ids := represented.ids
  sound := sound
  unique := by
    have places : (catalog.entries.map (Catalog.Entry.updated (database, collection, id)
        document)).map Catalog.Entry.place = catalog.entries.map Catalog.Entry.place := by
      simp [Function.comp_def, Catalog.Entry.updated_place]
    change ((catalog.entries.map (Catalog.Entry.updated (database, collection, id)
      document)).map Catalog.Entry.place).Nodup
    rw [places]
    exact represented.unique
  valid := by
    intro entry member
    obtain ⟨old, inEntries, rfl⟩ := List.mem_map.mp member
    unfold Catalog.Entry.updated
    split <;> exact represented.valid old inEntries
  found := by
    intro space key stored named
    have updatedSpace : ∀ entry : Catalog.Entry,
        (entry.updated (database, collection, id) document).space = entry.space ∧
          (entry.updated (database, collection, id) document).id = entry.id := by
      intro entry
      unfold Catalog.Entry.updated
      split <;> exact ⟨rfl, rfl⟩
    change after.get? space key = some stored ↔ _
    rw [contents space key named]
    simp only [List.mem_map, exists_exists_and_eq_and]
    simp only [updatedSpace]
    by_cases here : address database collection = space ∧ id = key
    · obtain ⟨rfl, rfl⟩ := here
      rw [if_pos ⟨rfl, rfl⟩]
      obtain ⟨old, search⟩ := Option.isSome_iff_exists.mp present
      have member := (Catalog.find?_eq_some_iff represented.unique _ _ _ _).mp search
      constructor
      · intro same
        refine ⟨_, member, rfl, rfl, ?_⟩
        simpa [Catalog.Entry.updated, Catalog.Entry.place] using same
      · rintro ⟨entry, inEntries, space, key, encoded⟩
        have place := (represented.place_eq_iff inEntries validDatabase).mpr ⟨space.symm, key.symm⟩
        simpa [Catalog.Entry.updated, place] using encoded
    · rw [if_neg here, represented.found space key stored named]
      refine exists_congr fun entry => and_congr_right fun member => ?_
      refine and_congr_right fun sameSpace => and_congr_right fun sameId => ?_
      have elsewhere : entry.place ≠ (database, collection, id) := by
        rw [Ne, represented.place_eq_iff member validDatabase, sameSpace, sameId]
        exact here
      rw [Catalog.Entry.updated, if_neg elsewhere]

/-- What is gone from the backend is removed from the catalogue. -/
theorem kept {after : Backend Stored} {test : Catalog.Entry → Bool}
    (gone : String → String → Prop) [∀ space key, Decidable (gone space key)] (sound : after.Sound)
    (contents : ∀ space key, NulFree space → after.get? space key =
      if gone space key then none else store.backend.get? space key)
    (removed : ∀ entry ∈ catalog.entries, test entry = true ↔ ¬ gone entry.space entry.id) :
    Represents { store with backend := after } (catalog.keep test) where
  immutable := represented.immutable
  ids := represented.ids
  sound := sound
  unique := represented.unique.sublist (List.filter_sublist.map _)
  valid := fun entry member => represented.valid entry (List.mem_filter.mp member).1
  found := by
    intro space key stored named
    change after.get? space key = some stored ↔ _
    rw [contents space key named]
    by_cases here : gone space key
    · rw [if_pos here]
      simp only [reduceCtorEq, false_iff]
      rintro ⟨entry, kept, rfl, rfl, -⟩
      obtain ⟨member, passes⟩ := List.mem_filter.mp kept
      exact (removed entry member).mp passes here
    · rw [if_neg here, represented.found space key stored named]
      constructor
      · rintro ⟨entry, member, rfl, rfl, encoded⟩
        exact ⟨entry, List.mem_filter.mpr ⟨member, (removed entry member).mpr here⟩, rfl, rfl, encoded⟩
      · rintro ⟨entry, kept, same⟩
        exact ⟨entry, (List.mem_filter.mp kept).1, same⟩

/-! ## Calls that write -/

/-- An insertion of documents with different identifiers is refused for the first one that
is taken, and otherwise puts them in. -/
theorem insertNew_agrees (items : List (String × Document)) (nonempty : items ≠ [])
    (validDatabase : ValidName database) (validCollection : ValidName collection)
    (distinct : (items.map Prod.fst).Nodup) :
    match catalog.checkFree database collection (items.map Prod.fst) with
    | .error error =>
      store.backend.insertNew (address database collection) (store.compression.records items) =
        .error error
    | .ok _ =>
      ∃ after, store.backend.insertNew (address database collection)
          (store.compression.records items) = .ok after ∧
        Represents { store with backend := after } (catalog.put database collection items) := by
  have named := nulFree_address validDatabase validCollection
  have encodedKeys : ((store.compression.records items).map Prod.fst).Nodup :=
    (store.compression.keys_records items).symm ▸ distinct
  have firstTaken : store.backend.firstTaken? (address database collection)
      (store.compression.records items) =
      (items.find? fun item => (catalog.find? database collection item.1).isSome).map
        fun (id, document) => (id, store.compression.encode document) := by
    rw [Backend.firstTaken?, List.find?_map]
    simp [represented.get?_address validDatabase validCollection]
  have firstId : (items.map Prod.fst).find?
      (fun id => (catalog.find? database collection id).isSome) =
      (items.find? fun item => (catalog.find? database collection item.1).isSome).map Prod.fst := by
    rw [List.find?_map]
    rfl
  rw [Catalog.checkFree, firstId]
  cases search : items.find? fun item => (catalog.find? database collection item.1).isSome with
  | some item =>
    rw [search] at firstTaken
    have untaken := encodedKeys.sublist
      (store.backend.untakenKeys_sublist (address database collection) _)
    exact (Backend.insertNew_taken named untaken firstTaken).trans
      (congrArg Except.error (takenId_address validDatabase collection item.1))
  | none =>
    rw [search] at firstTaken
    obtain ⟨after, inserted, contents, sound⟩ :=
      Backend.insertNew_free named encodedKeys firstTaken
    have free : ∀ item ∈ items, catalog.find? database collection item.1 = none := by
      simpa [List.find?_eq_none] using search
    exact ⟨after, inserted, represented.put validDatabase validCollection distinct free
      (sound represented.sound (.inl (by simpa using nonempty))) contents⟩

/-- An insertion is answered as the catalogue answers it. -/
theorem insert_agrees (given : Option String) (body : Json) :
    (store.insert database collection given body).1 =
        (catalog.insert database collection given body).1 ∧
      Represents (store.insert database collection given body).2
        (catalog.insert database collection given body).2 := by
  have setAside := represented.setAside 1
  unfold DocumentStore.insert Catalog.insert DocumentStore.prepareInsert Catalog.item
  rw [writableAddress_eq represented.immutable, represented.ids]
  cases writable : catalog.checkWritable database collection with
  | error error => exact ⟨rfl, setAside⟩
  | ok _ =>
    cases body with
    | object members =>
      cases chosen : DocumentStore.chooseId given members (catalog.ids.id catalog.ids.given) with
      | error error => simpa [documentOfBody, chosen, bind, Except.bind, Except.map] using setAside
      | ok id =>
        obtain ⟨validDatabase, validCollection⟩ := checkWritable_ok writable
        have agrees := represented.insertNew_agrees [(id, withId id members)] (by simp)
          validDatabase validCollection (by simp)
        simp only [documentOfBody, chosen, bind, Except.bind, Except.map]
        cases free : catalog.checkFree database collection [id] with
        | error error =>
          rw [List.map_singleton, free] at agrees
          have refused : store.backend.insertNew (address database collection)
            [(id, store.compression.encode (withId id members))] = .error error := agrees
          simp only [refused]
          exact ⟨trivial, setAside⟩
        | ok _ =>
          rw [List.map_singleton, free] at agrees
          obtain ⟨after, inserted, put⟩ := agrees
          have stored : store.backend.insertNew (address database collection)
            [(id, store.compression.encode (withId id members))] = .ok after := inserted
          simp only [stored]
          exact ⟨trivial, put.setAside 1⟩
    | _ => simpa [documentOfBody, bind, Except.bind, Except.map] using setAside

/-- An insertion of several documents is answered as the catalogue answers it. -/
theorem insertMany_agrees (bodies : List Json) :
    (store.insertMany database collection bodies).1 =
        (catalog.insertMany database collection bodies).1 ∧
      Represents (store.insertMany database collection bodies).2
        (catalog.insertMany database collection bodies).2 := by
  have setAside := represented.setAside bodies.length
  have joined := prepareItems_eq store collection bodies 0 [] [] (by simp)
  unfold DocumentStore.insertMany Catalog.insertMany Catalog.items
  rw [writableAddress_eq represented.immutable, ← represented.ids, joined]
  cases writable : catalog.checkWritable database collection with
  | error error => exact ⟨rfl, setAside⟩
  | ok _ =>
    simp only [bind, Except.bind, Except.map]
    cases prepared : store.prepareItems collection 0 [] bodies with
    | error error => exact ⟨rfl, setAside⟩
    | ok items =>
      have distinct := prepareItems_distinct prepared
      simp only [List.nil_append]
      cases items with
      | nil =>
        have nothing : (catalog.setAside bodies.length).put database collection [] =
            catalog.setAside bodies.length := by simp [Catalog.put]
        simp only [List.map_nil, Catalog.checkFree, List.find?_nil, nothing]
        exact ⟨trivial, setAside⟩
      | cons item others =>
        obtain ⟨validDatabase, validCollection⟩ := checkWritable_ok writable
        have agrees := represented.insertNew_agrees (item :: others) (by simp) validDatabase
          validCollection distinct
        cases free : catalog.checkFree database collection ((item :: others).map Prod.fst) with
        | error error =>
          rw [free] at agrees
          simp only [agrees]
          exact ⟨trivial, setAside⟩
        | ok _ =>
          rw [free] at agrees
          obtain ⟨after, stored, put⟩ := agrees
          simp only [stored]
          exact ⟨trivial, put.setAside bodies.length⟩

/-- A replacement is answered as the catalogue answers it. -/
theorem replace_agrees (id : String) (body : Json) :
    (store.replace database collection id body).1 =
        (catalog.replace database collection id body).1 ∧
      Represents (store.replace database collection id body).2
        (catalog.replace database collection id body).2 := by
  unfold DocumentStore.replace Catalog.replace Catalog.replacement
  rw [writableAddress_eq represented.immutable]
  cases writable : catalog.checkWritable database collection with
  | error error => exact ⟨rfl, represented⟩
  | ok _ =>
    simp only [bind, Except.bind, Except.map]
    cases validateId id with
    | error error => exact ⟨rfl, represented⟩
    | ok _ =>
      cases body with
      | object members =>
        obtain ⟨validDatabase, validCollection⟩ := checkWritable_ok writable
        have place := represented.get?_address validDatabase validCollection id
        simp only [documentOfBody]
        cases search : catalog.find? database collection id with
        | none =>
          rw [search] at place
          rw [Backend.replace?_absent _ place]
          exact ⟨rfl, represented⟩
        | some old =>
          rw [search] at place
          obtain ⟨after, replaced, contents, sound⟩ := Backend.replace?_present
            (store.compression.encode (withId id members))
            (nulFree_address validDatabase validCollection) place
          rw [replaced]
          exact ⟨rfl, represented.replaced validDatabase (by simp [search])
            (sound represented.sound) contents⟩
      | _ => exact ⟨rfl, represented⟩

/-- A deletion is answered as the catalogue answers it. -/
theorem delete_agrees (id : String) :
    (store.delete database collection id).1 = (catalog.delete database collection id).1 ∧
      Represents (store.delete database collection id).2
        (catalog.delete database collection id).2 := by
  unfold DocumentStore.delete Catalog.delete
  rw [writableAddress_eq represented.immutable]
  cases writable : catalog.checkWritable database collection with
  | error error => exact ⟨rfl, represented⟩
  | ok _ =>
    obtain ⟨validDatabase, validCollection⟩ := checkWritable_ok writable
    have place := represented.get?_address validDatabase validCollection id
    refine ⟨by simp [Except.map, Backend.delete_fst, place],
      represented.kept (fun space key => address database collection = space ∧ id = key)
        (Backend.sound_delete _ _ represented.sound) (fun space key named => ?_)
        fun entry member => ?_⟩
    · exact Backend.get?_delete _ _ _ (nulFree_address validDatabase validCollection) named
    · rw [decide_eq_true_eq, Ne, represented.place_eq_iff member validDatabase]

/-- A dropping is answered as the catalogue answers it. -/
theorem dropCollection_agrees :
    (store.dropCollection database collection).1 =
        (catalog.dropCollection database collection).1 ∧
      Represents (store.dropCollection database collection).2
        (catalog.dropCollection database collection).2 := by
  unfold DocumentStore.dropCollection Catalog.dropCollection
  rw [writableAddress_eq represented.immutable]
  cases writable : catalog.checkWritable database collection with
  | error error => exact ⟨rfl, represented⟩
  | ok _ =>
    obtain ⟨validDatabase, validCollection⟩ := checkWritable_ok writable
    have holds := represented.contains_eq validDatabase validCollection
    refine ⟨by simp [Except.map, Backend.drop_fst, holds],
      represented.kept (fun space _ => address database collection = space)
        (Backend.sound_drop _ represented.sound) (fun space key named => ?_)
        fun entry member => ?_⟩
    · exact Backend.get?_drop _ _ (nulFree_address validDatabase validCollection) named
    · rw [decide_eq_true_eq, ← represented.space_eq_iff member validDatabase]
      exact not_congr eq_comm

end Represents

end DocumentGateway

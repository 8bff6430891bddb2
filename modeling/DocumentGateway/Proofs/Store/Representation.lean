import DocumentGateway.Proofs.Store.Address
import DocumentGateway.Proofs.Store.Backend
import DocumentGateway.Proofs.Store.Catalog
import DocumentGateway.Proofs.Store.Codec

/-!
# Stores that represent a catalogue

A store represents a catalogue if its backend holds the encoded documents of the catalogue,
each at the address of its collection, and nothing else. Both backends are treated alike:
only what is found in them matters. A store that represents a catalogue answers every
question about its documents as the catalogue does, when the catalogue's documents are
read as the store reads what it has stored.
-/
namespace DocumentGateway

open FlatTable (NulFree)

/-- The address of an entry's collection. -/
def Catalog.Entry.space (entry : Entry) : String :=
  address entry.database entry.collection

/-- A store and a catalogue of what is in it. -/
structure Represents (store : DocumentStore) (catalog : Catalog) : Prop where
  immutable : store.immutable = catalog.immutable
  ids : store.ids = catalog.ids
  sound : store.backend.Sound
  unique : catalog.Unique
  valid : ∀ entry ∈ catalog.entries, ValidName entry.database ∧ ValidName entry.collection
  found : ∀ space key stored, NulFree space → (store.backend.get? space key = some stored ↔
    ∃ entry ∈ catalog.entries, entry.space = space ∧ entry.id = key ∧
      store.compression.encode entry.document = stored)

/-- The address of a collection whose names are accepted. -/
theorem checkedAddress_eq (database collection : String) :
    checkedAddress database collection =
      (Catalog.checkNames database collection).map fun _ => address database collection := by
  unfold checkedAddress Catalog.checkNames
  cases validateName "database" database with
  | error error => rfl
  | ok _ => cases validateName "collection" collection <;> rfl

/-- Names that pass the check are valid. -/
theorem checkNames_ok {database collection : String}
    (accepted : Catalog.checkNames database collection = .ok ()) :
    ValidName database ∧ ValidName collection := by
  obtain ⟨_, acceptedDatabase, acceptedCollection⟩ := bind_eq_ok_iff.mp accepted
  exact ⟨(validateName_ok_iff _ _).mp acceptedDatabase, (validateName_ok_iff _ _).mp acceptedCollection⟩

/-- What is left behind a prefix makes up the text together with it. -/
theorem isPrefixOf?_eq_some_iff (front text rest : List Char) :
    front.isPrefixOf? text = some rest ↔ text = front ++ rest := by
  induction front generalizing text with
  | nil => simp [List.isPrefixOf?]
  | cons c front inductionHypothesis =>
    cases text with
    | nil => simp [List.isPrefixOf?]
    | cons d text =>
      by_cases same : c = d
      · simp [List.isPrefixOf?, same, inductionHypothesis]
      · simp [List.isPrefixOf?, same, Ne.symm same]

/-- The collection at an address is what follows the name of the database. -/
theorem collectionAt?_eq_some_iff (database space collection : String) :
    DocumentStore.collectionAt? database space = some collection ↔
      space = address database collection := by
  rw [DocumentStore.collectionAt?, Option.map_eq_some_iff]
  simp only [isPrefixOf?_eq_some_iff]
  constructor
  · rintro ⟨rest, split, rfl⟩
    exact String.toList_injective (by simp [split])
  · rintro rfl
    exact ⟨collection.toList, by simp, by simp⟩

/-- The collections of a database have their addresses in order. -/
theorem address_lt_iff (database left right : String) :
    address database left < address database right ↔ left < right := by
  simp only [String.lt_iff, toList_address, FlatTable.append_lt_append_iff]
  simp

/-- Sorting by different keys makes the keys increase. -/
theorem mergeSort_increasing {α : Type} (key : α → String) {items : List α}
    (distinct : (items.map key).Nodup) :
    (items.mergeSort fun left right => key left ≤ key right).Pairwise
      fun left right => key left < key right := by
  have ordered : (items.mergeSort fun left right => key left ≤ key right).Pairwise
      fun left right => decide (key left ≤ key right) = true := by
    refine List.pairwise_mergeSort (fun a b c first second => ?_) (fun a b => ?_) items
    · simp only [decide_eq_true_eq] at first second ⊢
      exact le_trans first second
    · simpa using le_total (key a) (key b)
  have different : (items.mergeSort fun left right => key left ≤ key right).Pairwise
      fun left right => key left ≠ key right :=
    List.pairwise_map.mp (((List.mergeSort_perm items _).map key).nodup_iff.mpr distinct)
  exact (ordered.and different).imp fun ⟨smaller, unequal⟩ =>
    lt_of_le_of_ne (by simpa using smaller) unequal

namespace Represents

variable {store : DocumentStore} {catalog : Catalog} (represented : Represents store catalog)
variable {database collection : String}

include represented

/-- An entry is at the address of a collection exactly if it is in the collection. -/
theorem space_eq_iff {entry : Catalog.Entry} (member : entry ∈ catalog.entries)
    (validDatabase : ValidName database) :
    entry.space = address database collection ↔
      entry.database = database ∧ entry.collection = collection :=
  address_inj (represented.valid entry member).1 validDatabase

/-- The backend holds the encoded documents of a collection at its address. -/
theorem get?_address (validDatabase : ValidName database) (validCollection : ValidName collection)
    (id : String) :
    store.backend.get? (address database collection) id =
      (catalog.find? database collection id).map store.compression.encode := by
  refine Option.ext fun stored => ?_
  rw [represented.found _ _ _ (nulFree_address validDatabase validCollection),
    Option.map_eq_some_iff]
  simp only [Catalog.find?_eq_some_iff represented.unique]
  constructor
  · rintro ⟨entry, member, space, rfl, encoded⟩
    obtain ⟨rfl, rfl⟩ := (represented.space_eq_iff member validDatabase).mp space
    exact ⟨entry.document, member, encoded⟩
  · rintro ⟨document, member, encoded⟩
    exact ⟨_, member, rfl, rfl, encoded⟩

/-- A document that is in the catalogue is read from the store. -/
theorem get_eq (id : String) :
    store.get database collection id = (do
      Catalog.checkNames database collection
      (catalog.find? database collection id).mapM store.compression.reread) := by
  rw [DocumentStore.get, checkedAddress_eq]
  cases names : Catalog.checkNames database collection with
  | error error => rfl
  | ok _ =>
    obtain ⟨validDatabase, validCollection⟩ := checkNames_ok names
    simp only [Except.map, bind, Except.bind,
      represented.get?_address validDatabase validCollection]
    cases catalog.find? database collection id <;> rfl

/-! ## Whole collections -/

/-- No two entries of a collection have one identifier. -/
theorem ids_distinct (database collection : String) :
    ((catalog.within database collection).map (·.id)).Nodup := by
  have places : (catalog.within database collection).Pairwise
      fun left right => left.place ≠ right.place :=
    (List.pairwise_map.mp represented.unique).sublist List.filter_sublist
  refine List.pairwise_map.mpr (places.imp_of_mem fun {left right} inLeft inRight different same => ?_)
  obtain ⟨-, leftDatabase, leftCollection⟩ := Catalog.mem_within_iff.mp inLeft
  obtain ⟨-, rightDatabase, rightCollection⟩ := Catalog.mem_within_iff.mp inRight
  exact different (by simp [Catalog.Entry.place, leftDatabase, leftCollection, rightDatabase,
    rightCollection, same])

/-- The values of a backend at an address are the documents of the collection, encoded, in
the order of their identifiers. -/
theorem values_address (validDatabase : ValidName database)
    (validCollection : ValidName collection) :
    store.backend.values (address database collection) =
      (catalog.listed database collection).map store.compression.encode := by
  let sorted := (catalog.within database collection).mergeSort fun left right => left.id ≤ right.id
  let records := sorted.map fun entry => (entry.id, store.compression.encode entry.document)
  have increasing : records.Pairwise fun left right => left.1 < right.1 :=
    List.pairwise_map.mpr
      (mergeSort_increasing Catalog.Entry.id (represented.ids_distinct database collection))
  have same : ∀ key, (SortedMap.mk records increasing).get? key =
      store.backend.get? (address database collection) key := by
    refine fun key => Option.ext fun stored => ?_
    rw [represented.found _ _ _ (nulFree_address validDatabase validCollection),
      ← SortedMap.mem_entries_iff]
    simp only [records, sorted, List.mem_map, List.mem_mergeSort, Catalog.mem_within_iff,
      Prod.mk.injEq]
    constructor
    · rintro ⟨entry, ⟨member, rfl, rfl⟩, key, encoded⟩
      exact ⟨entry, member, rfl, key, encoded⟩
    · rintro ⟨entry, member, space, key, encoded⟩
      exact ⟨entry, ⟨member, (represented.space_eq_iff member validDatabase).mp space⟩, key, encoded⟩
  rw [store.backend.values_eq (address database collection) same]
  simp [SortedMap.values, records, sorted, Catalog.listed]

/-- The documents of a collection are loaded in the order of their identifiers. -/
theorem load_eq (validDatabase : ValidName database) (validCollection : ValidName collection) :
    store.load (address database collection) =
      (catalog.listed database collection).mapM store.compression.reread := by
  rw [DocumentStore.load, represented.values_address validDatabase validCollection, List.mapM_map]
  rfl

/-- A whole collection is read from the store. -/
theorem getAll_eq :
    store.getAll database collection = (do
      Catalog.checkNames database collection
      (catalog.listed database collection).mapM store.compression.reread) := by
  rw [DocumentStore.getAll, checkedAddress_eq]
  cases names : Catalog.checkNames database collection with
  | error error => rfl
  | ok _ =>
    obtain ⟨validDatabase, validCollection⟩ := checkNames_ok names
    exact represented.load_eq validDatabase validCollection

/-- A count is that of the documents of the collection that match, as they are read. -/
theorem count_eq (filter : Filter) :
    store.count database collection filter = (do
      Catalog.checkNames database collection
      let documents ← (catalog.listed database collection).mapM store.compression.reread
      .ok (documents.countP filter.matches)) := by
  rw [DocumentStore.count, checkedAddress_eq]
  cases names : Catalog.checkNames database collection with
  | error error => rfl
  | ok _ =>
    obtain ⟨validDatabase, validCollection⟩ := checkNames_ok names
    simp only [Except.map, bind, Except.bind, represented.load_eq validDatabase validCollection]

/-- Something is found at the address of a collection exactly if the collection holds
entries. -/
theorem inhabited_iff (validDatabase : ValidName database)
    (named : NulFree (address database collection)) :
    store.backend.Inhabited (address database collection) ↔
      ∃ entry ∈ catalog.entries, entry.database = database ∧ entry.collection = collection := by
  constructor
  · rintro ⟨key, stored, found⟩
    obtain ⟨entry, member, space, -⟩ := (represented.found _ _ _ named).mp found
    exact ⟨entry, member, (represented.space_eq_iff member validDatabase).mp space⟩
  · rintro ⟨entry, member, rfl, rfl⟩
    exact ⟨entry.id, _, (represented.found _ _ _ named).mpr ⟨entry, member, rfl, rfl, rfl⟩⟩

/-- A backend has the namespace of a collection exactly if the collection is not empty. -/
theorem contains_eq (validDatabase : ValidName database) (validCollection : ValidName collection) :
    store.backend.contains (address database collection) =
      !(catalog.within database collection).isEmpty := by
  rw [Bool.eq_iff_iff, Backend.contains_iff represented.sound,
    represented.inhabited_iff validDatabase (nulFree_address validDatabase validCollection)]
  simp [Catalog.within]

/-- A collection is there exactly if the catalogue has an entry in it. -/
theorem collectionExists_eq :
    store.collectionExists database collection =
      (Catalog.checkNames database collection).map fun _ =>
        !(catalog.within database collection).isEmpty := by
  rw [DocumentStore.collectionExists, checkedAddress_eq]
  cases names : Catalog.checkNames database collection with
  | error error => rfl
  | ok _ =>
    obtain ⟨validDatabase, validCollection⟩ := checkNames_ok names
    exact congrArg Except.ok (represented.contains_eq validDatabase validCollection)

/-! ## Listing collections -/

/-- The namespaces that are listed of a database are the addresses of its collections that
hold entries. -/
theorem mem_spaces_iff (validDatabase : ValidName database) :
    address database collection ∈ store.backend.spaces ↔
      ∃ entry ∈ catalog.entries, entry.database = database ∧ entry.collection = collection := by
  rw [Backend.mem_spaces_iff represented.sound]
  constructor
  · rintro ⟨named, inhabited⟩
    exact (represented.inhabited_iff validDatabase named).mp inhabited
  · intro holds
    obtain ⟨entry, member, rfl, rfl⟩ := holds
    have named := nulFree_address validDatabase (represented.valid entry member).2
    exact ⟨named, (represented.inhabited_iff validDatabase named).mpr ⟨entry, member, rfl, rfl⟩⟩

/-- The collections that are listed of a database are those that hold entries in it. -/
theorem listCollections_eq :
    store.listCollections database =
      (validateName "database" database).map fun _ => catalog.collections database := by
  rw [DocumentStore.listCollections]
  cases accepted : validateName "database" database with
  | error error => rfl
  | ok _ =>
    have validDatabase := (validateName_ok_iff _ _).mp accepted
    have listed : (store.backend.spaces.filterMap
        (DocumentStore.collectionAt? database)).Pairwise (· < ·) := by
      refine List.pairwise_filterMap.mpr
        ((Backend.spaces_increasing represented.sound).imp fun smaller => ?_)
      intro left isLeft right isRight
      rw [(collectionAt?_eq_some_iff _ _ _).mp isLeft,
        (collectionAt?_eq_some_iff _ _ _).mp isRight] at smaller
      exact (address_lt_iff _ _ _).mp smaller
    have sorted : (catalog.collections database).Pairwise (· < ·) :=
      mergeSort_increasing id (by simpa using List.nodup_dedup _)
    refine congrArg Except.ok (listed.eq_of_mem_iff sorted fun collection => ?_)
    rw [List.mem_filterMap]
    simp only [collectionAt?_eq_some_iff, exists_eq_right, represented.mem_spaces_iff validDatabase,
      Catalog.collections, List.mem_mergeSort, List.mem_dedup, List.mem_map, List.mem_filter,
      decide_eq_true_eq]
    exact ⟨fun ⟨entry, member, inDatabase, named⟩ => ⟨entry, ⟨member, inDatabase⟩, named⟩,
      fun ⟨entry, ⟨member, inDatabase⟩, named⟩ => ⟨entry, member, inDatabase, named⟩⟩

end Represents

end DocumentGateway

import DocumentGateway.Proofs.Store.Address
import DocumentGateway.Proofs.Store.AlikeNamespace

/-!
# What stores show of a collection

Two stores show the same of a collection if they answer with the same document under every
identifier and agree on whether the collection is there. Then every read of the
collection is answered alike, whatever the backends hold elsewhere.
-/
namespace DocumentGateway.DocumentStore

open Backend (AlikeAt)
open FlatTable (NulFree)

/-- Both stores answer with the same document under every identifier of a collection, and
they agree on whether the collection is there. -/
structure SameCollection (left right : DocumentStore) (database collection : String) : Prop where
  document : ∀ id, left.get database collection id = right.get database collection id
  existence : left.collectionExists database collection = right.collectionExists database collection

namespace SameCollection

variable {left right : DocumentStore} {database collection : String}

/-- A store shows of a collection what it shows of it. -/
theorem refl (store : DocumentStore) (database collection : String) :
    SameCollection store store database collection :=
  ⟨fun _ => rfl, rfl⟩

/-- Two stores show the same of a collection either way around. -/
theorem symm (same : SameCollection left right database collection) :
    SameCollection right left database collection :=
  ⟨fun id => (same.document id).symm, same.existence.symm⟩

/-- What two pairs of stores show alike, the outer ones show alike. -/
theorem trans {other : DocumentStore} (first : SameCollection left right database collection)
    (second : SameCollection right other database collection) :
    SameCollection left other database collection :=
  ⟨fun id => (first.document id).trans (second.document id), first.existence.trans second.existence⟩

end SameCollection

/-! ## Collections and namespaces -/

/-- The answer to a get by what was read, if there was something to read. -/
def answerOf : Option (Except StoreError Document) → Except StoreError (Option Document)
  | none => .ok none
  | some read => read.map some

/-- The answer to a get tells what was read. -/
theorem answerOf_inj {left right : Option (Except StoreError Document)} :
    answerOf left = answerOf right ↔ left = right := by
  constructor
  · intro same
    match left, right with
    | none, none => rfl
    | none, some (.ok _) | none, some (.error _) => cases same
    | some (.ok _), none | some (.error _), none => cases same
    | some (.ok _), some (.ok _) => simpa [answerOf, Except.map] using same
    | some (.ok _), some (.error _) | some (.error _), some (.ok _) => cases same
    | some (.error _), some (.error _) => simpa [answerOf, Except.map] using same
  · rintro rfl
    rfl

variable {left right : DocumentStore} {database collection space : String}

/-- Under checked names a get answers with what is read of the stored value. -/
theorem get_of_checked {store : DocumentStore}
    (checked : checkedAddress database collection = .ok space) (id : String) :
    store.get database collection id =
      answerOf ((store.backend.get? space id).map store.compression.decode) := by
  simp only [get, checked, bind, Except.bind]
  cases store.backend.get? space id <;> rfl

/-- There is no document under an identifier exactly if nothing is stored under it. -/
theorem get_eq_none_iff {store : DocumentStore}
    (checked : checkedAddress database collection = .ok space) (id : String) :
    store.get database collection id = .ok none ↔ store.backend.get? space id = none := by
  rw [get_of_checked checked, show Except.ok none = answerOf none from rfl, answerOf_inj,
    Option.map_eq_none_iff]

/-- Under checked names a collection is there exactly if its namespace is. -/
theorem collectionExists_of_checked {store : DocumentStore}
    (checked : checkedAddress database collection = .ok space) :
    store.collectionExists database collection = .ok (store.backend.contains space) := by
  rw [collectionExists, checked]
  rfl

/-- Stores that read alike show the same of a collection exactly if their backends are alike
under its address. Nothing is shown under names that have no address. -/
theorem sameCollection_iff (codec : left.compression = right.compression) :
    SameCollection left right database collection ↔
      ∀ space, checkedAddress database collection = .ok space →
        AlikeAt left.compression.decode left.backend right.backend space := by
  constructor
  · rintro ⟨document, existence⟩ space checked
    refine ⟨fun key => ?_, ?_⟩
    · have same := document key
      rwa [get_of_checked checked, get_of_checked checked, answerOf_inj, ← codec] at same
    · rw [collectionExists_of_checked checked, collectionExists_of_checked checked] at existence
      rw [Except.ok.inj existence]
  · intro alike
    cases checked : checkedAddress database collection with
    | error error =>
      refine ⟨fun id => ?_, ?_⟩
      · rw [get, get, checked]
        rfl
      · rw [collectionExists, collectionExists, checked]
        rfl
    | ok space =>
      obtain ⟨found, present⟩ := alike space checked
      refine ⟨fun id => ?_, ?_⟩
      · rw [get_of_checked checked, get_of_checked checked, found, codec]
      · rw [collectionExists_of_checked checked, collectionExists_of_checked checked,
          Bool.eq_iff_iff.mpr present]

/-! ## Reads -/

/-- Lists that are read alike place by place are read alike as a whole. -/
theorem mapM_eq_of_map {α β ε : Type} (read : α → Except ε β) {left right : List α}
    (same : left.map read = right.map read) : left.mapM read = right.mapM read := by
  have viaMap : ∀ items : List α, items.mapM read = (items.map read).mapM id := by
    intro items
    rw [List.mapM_map]
    rfl
  rw [viaMap, viaMap, same]

namespace SameCollection

variable (same : SameCollection left right database collection)
variable (codec : left.compression = right.compression)

include same codec

/-- The documents at the address of the collection are the same. -/
theorem load_eq (checked : checkedAddress database collection = .ok space) :
    left.load space = right.load space := by
  have alike := (sameCollection_iff codec).mp same space checked
  unfold load
  rw [← codec]
  exact mapM_eq_of_map _ alike.values_eq

/-- All documents of the collection are shown alike. -/
theorem getAll_eq : left.getAll database collection = right.getAll database collection := by
  unfold getAll
  cases checked : checkedAddress database collection with
  | error error => rfl
  | ok space => exact same.load_eq codec checked

/-- A find in the collection is answered alike. -/
theorem find_eq (filter : Filter) (selection : Selection) :
    left.find database collection filter selection =
      right.find database collection filter selection := by
  unfold find
  cases checked : checkedAddress database collection with
  | error error => rfl
  | ok space => simp only [bind, Except.bind, same.load_eq codec checked]

/-- A count in the collection is answered alike. -/
theorem count_eq (filter : Filter) :
    left.count database collection filter = right.count database collection filter := by
  unfold count
  cases checked : checkedAddress database collection with
  | error error => rfl
  | ok space => simp only [bind, Except.bind, same.load_eq codec checked]

/-- The distinct values of the collection are answered alike. -/
theorem distinct_eq (field : String) (filter : Filter) :
    left.distinct database collection field filter =
      right.distinct database collection field filter := by
  unfold distinct
  cases checked : checkedAddress database collection with
  | error error => rfl
  | ok space => simp only [bind, Except.bind, same.load_eq codec checked]

/-- An aggregation of the collection is answered alike. -/
theorem aggregate_eq (pipeline : Pipeline) :
    left.aggregate database collection pipeline = right.aggregate database collection pipeline := by
  rw [aggregate, aggregate, same.getAll_eq codec]

end SameCollection

end DocumentGateway.DocumentStore

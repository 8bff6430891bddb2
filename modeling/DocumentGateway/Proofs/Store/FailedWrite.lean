import DocumentGateway.Proofs.Store.Address
import DocumentGateway.Proofs.Store.Backend

/-!
# Writes that fail

A writing operation that is refused, or does not find what it is to write to, leaves the
documents of every collection as they are. Only the supply of identifiers may move on.
An insertion that succeeds, on the other hand, stores a document under an identifier
that was free.
-/
namespace DocumentGateway.DocumentStore

open FlatTable (NulFree)

/-- Two states of a store with the same documents. The same is found everywhere and it is
read in the same way. If the backend was sound, nothing in it has changed at all. -/
structure SameDocuments (before after : DocumentStore) : Prop where
  compression : after.compression = before.compression
  found : ∀ space key, after.backend.get? space key = before.backend.get? space key
  backend : before.backend.Sound → after.backend = before.backend

namespace SameDocuments

variable {before after : DocumentStore}

/-- A store has the same documents as itself. -/
theorem refl (store : DocumentStore) : store.SameDocuments store :=
  ⟨rfl, fun _ _ => rfl, fun _ => rfl⟩

/-- Setting identifiers aside touches no document. -/
theorem setAside (store : DocumentStore) (count : Nat) :
    store.SameDocuments (store.setAside count) :=
  ⟨rfl, fun _ _ => rfl, fun _ => rfl⟩

end SameDocuments

variable (store : DocumentStore) (database collection : String)

/-- An insertion that is refused leaves all documents as they are. -/
theorem insert_refused {given : Option String} {body : Json} {error : StoreError}
    (refused : (store.insert database collection given body).1 = .error error) :
    store.SameDocuments (store.insert database collection given body).2 := by
  unfold insert at refused ⊢
  cases prepared : store.prepareInsert database collection given body with
  | error cause => exact .setAside store 1
  | ok item =>
    obtain ⟨space, id, document⟩ := item
    cases outcome : store.backend.insertNew space [(id, store.compression.encode document)] with
    | error cause => simpa [prepared, outcome] using SameDocuments.setAside store 1
    | ok backend => simp [prepared, outcome] at refused

/-- An insertion of several documents that is refused leaves all documents as they are. -/
theorem insertMany_refused {bodies : List Json} {error : StoreError}
    (refused : (store.insertMany database collection bodies).1 = .error error) :
    store.SameDocuments (store.insertMany database collection bodies).2 := by
  unfold insertMany at refused ⊢
  simp only at refused ⊢
  split
  · exact .setAside store bodies.length
  · exact .setAside store bodies.length
  · rename_i space item items prepared
    simp only [prepared] at refused
    split
    · exact .setAside store bodies.length
    · rename_i backend stored
      rw [stored] at refused
      cases refused

/-- A replacement that is refused or finds no document leaves all documents as they
are. -/
theorem replace_undone {id : String} {body : Json}
    (undone : ∀ document, (store.replace database collection id body).1 ≠ .ok (some document)) :
    store.SameDocuments (store.replace database collection id body).2 := by
  unfold replace at undone ⊢
  simp only at undone ⊢
  split
  · exact .refl store
  · rename_i space document prepared
    simp only [prepared] at undone
    split
    · rename_i backend replaced
      simp [replaced] at undone
    · exact .refl store

/-- A replacement that finds a document answers one with the given identifier in it. -/
theorem replace_found {id : String} {body : Json} {document : Document}
    (replaced : (store.replace database collection id body).1 = .ok (some document)) :
    Keyed.get? "_id" document = some (.string id) := by
  unfold replace at replaced
  simp only at replaced
  split at replaced
  · cases replaced
  · rename_i space ready prepared
    simp only [bind_eq_ok_iff] at prepared
    obtain ⟨_, -, _, -, members, -, made⟩ := prepared
    obtain ⟨rfl, rfl⟩ := Prod.mk.inj (Except.ok.inj made)
    split at replaced
    · obtain rfl : withId id members = document := by simpa using replaced
      simp [withId, Keyed.get?]
    · cases replaced

/-- A deletion that is refused or finds no document leaves all documents as they are. -/
theorem delete_undone {id : String}
    (undone : (store.delete database collection id).1 ≠ .ok true) :
    store.SameDocuments (store.delete database collection id).2 := by
  unfold delete at undone ⊢
  split
  · exact .refl store
  · rename_i space writable
    simp only [writable] at undone
    have absent : store.backend.get? space id = none := by
      simpa [Backend.delete_fst] using undone
    obtain ⟨found, unchanged⟩ := Backend.delete_absent absent
    exact ⟨rfl, found, unchanged⟩

/-- A dropping that is refused or finds no collection leaves all documents as they
are. -/
theorem dropCollection_undone
    (undone : (store.dropCollection database collection).1 ≠ .ok true) :
    store.SameDocuments (store.dropCollection database collection).2 := by
  unfold dropCollection at undone ⊢
  split
  · exact .refl store
  · rename_i space writable
    simp only [writable] at undone
    have absent : store.backend.contains space = false := by
      simpa [Backend.drop_fst] using undone
    have unchanged := Backend.drop_absent absent
    exact ⟨rfl, fun space key => congrArg (·.get? space key) unchanged, fun _ => unchanged⟩

/-- What an insertion prepares is the document of its body with the chosen identifier as its
first member, for a collection that may be written to. -/
theorem prepareInsert_ok {given : Option String} {body : Json} {space id : String}
    {document : Document}
    (prepared : store.prepareInsert database collection given body = .ok (space, id, document)) :
    store.writableAddress database collection = .ok space ∧
      ∃ members, body = .object members ∧
        chooseId given members (store.ids.id store.ids.given) = .ok id ∧
        document = withId id members := by
  simp only [prepareInsert, bind_eq_ok_iff] at prepared
  obtain ⟨checked, writable, members, read, own, chosen, made⟩ := prepared
  obtain ⟨rfl, rfl, rfl⟩ : checked = space ∧ own = id ∧ withId own members = document := by
    simpa using made
  refine ⟨writable, members, ?_, chosen, rfl⟩
  cases body with
  | object document => exact congrArg Json.object (Except.ok.inj read)
  | _ => cases read

/-- An insertion that succeeds stores the document of its body where none was, and answers
the document as it is stored. -/
theorem insert_ok {given : Option String} {body : Json} {document : Document}
    (stored : (store.insert database collection given body).1 = .ok document) :
    let after := (store.insert database collection given body).2
    ∃ space id members, store.writableAddress database collection = .ok space ∧
      body = .object members ∧ chooseId given members (store.ids.id store.ids.given) = .ok id ∧
      document = withId id members ∧ store.backend.get? space id = none ∧
      after.backend.get? space id = some (store.compression.encode document) ∧
      after.compression = store.compression := by
  intro after
  unfold after
  unfold insert at stored ⊢
  cases prepared : store.prepareInsert database collection given body with
  | error cause => simp [prepared] at stored
  | ok item =>
    obtain ⟨space, id, ready⟩ := item
    obtain ⟨writable, members, isObject, chosen, rfl⟩ :=
      prepareInsert_ok store database collection prepared
    have named := nulFree_of_writableAddress writable
    cases present : store.backend.get? space id with
    | some old =>
      simp [prepared, Backend.insertNew_one_taken _ named present] at stored
    | none =>
      obtain ⟨filled, inserted, contents, -⟩ := Backend.insertNew_one_free
        (store.compression.encode (withId id members)) named present
      simp only [prepared, inserted, Except.ok.injEq] at stored ⊢
      subst stored
      refine ⟨space, id, members, writable, isObject, chosen, rfl, present, ?_, rfl⟩
      simp [contents space id named]

/-- An insertion that succeeds stores a document where none was, and answers the document
with its identifier in it. -/
theorem insert_stored {given : Option String} {body : Json} {document : Document}
    (stored : (store.insert database collection given body).1 = .ok document) :
    ∃ space id, Keyed.get? "_id" document = some (.string id) ∧
      store.backend.get? space id = none ∧
      (store.insert database collection given body).2.backend.get? space id ≠ none := by
  obtain ⟨space, id, members, -, -, -, rfl, absent, present, -⟩ :=
    store.insert_ok database collection stored
  exact ⟨space, id, by simp [withId, Keyed.get?], absent, by simp [present]⟩

end DocumentGateway.DocumentStore

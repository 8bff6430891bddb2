import DocumentGateway.Pipeline.Reader
import DocumentGateway.Store.Backend
import DocumentGateway.Store.Codec
import DocumentGateway.Store.Immutable

/-!
# The document store

Documents are kept in collections, and collections in databases. Every document has an
identifier, which is its first member. Reads look at the documents of one collection in
the order of their identifiers. Writes are refused when they aim at an immutable
collection, and an insertion of several documents stores all of them or none.

Documents that bring no identifier get one from a supply. An insertion sets one
identifier aside for each of its documents, whether it is used or not, so the supply
does not depend on what is stored.
-/
namespace DocumentGateway

/-- A supply of identifiers: the number of those given out, and the identifier with each
number. -/
structure IdSupply where
  given : Nat
  id : Nat → String

/-- A store of documents. -/
structure DocumentStore where
  backend : Backend Stored
  compression : Compression
  immutable : ImmutableSet
  ids : IdSupply

/-- The answer of a writing operation and the store after it. -/
abbrev Outcome (α : Type) := Except StoreError α × DocumentStore

/-- The document of a body. -/
def documentOfBody (body : Json) : Except StoreError Document :=
  match body with
  | .object document => .ok document
  | other =>
    .error (.invalidDocument ("expected a JSON object, got " ++ other.kindName))

/-- The document with the given identifier as its first member. -/
def withId (id : String) (document : Document) : Document :=
  ("_id", .string id) :: document.filter fun member => member.1 != "_id"

/-- The identifier that a document brings. A null counts as none. -/
def ownId (document : Document) : Except StoreError (Option String) :=
  match Keyed.get? "_id" document with
  | none => .ok none
  | some .null => .ok none
  | some (.string id) => (validateId id).map fun _ => some id
  | some other => .error (.invalidDocument ("'_id' must be a string, got " ++ other.kindName))

/-- Reads a filter document for the store. -/
def readStoreFilter (value : Json) : Except StoreError Filter :=
  (Filter.ofJson value).mapError fun error => .invalidFilter error.message

/-- Reads the text of a filter document for the store. -/
def readStoreFilterText (text : String) : Except StoreError Filter :=
  (Filter.ofText text).mapError fun error => .invalidFilter error.message

/-- Reads a pipeline for the store. -/
def readStorePipeline (value : Json) : Except StoreError Pipeline :=
  (Pipeline.ofJson value).mapError fun error => .invalidPipeline error.message

/-- Reads the text of a pipeline for the store. -/
def readStorePipelineText (text : String) : Except StoreError Pipeline :=
  (Pipeline.ofText text).mapError fun error => .invalidPipeline error.message

namespace DocumentStore

/-- The store after some identifiers have been set aside. -/
def setAside (store : DocumentStore) (count : Nat) : DocumentStore :=
  { store with ids := { store.ids with given := store.ids.given + count } }

/-- The address of a collection that may be written to. -/
def writableAddress (store : DocumentStore) (database collection : String) :
    Except StoreError String := do
  let space ← checkedAddress database collection
  store.immutable.check database collection
  .ok space

/-- The documents at an address. -/
def load (store : DocumentStore) (space : String) : Except StoreError (List Document) :=
  (store.backend.values space).mapM store.compression.decode

/-- The document with an identifier, if there is one. -/
def get (store : DocumentStore) (database collection id : String) :
    Except StoreError (Option Document) := do
  let space ← checkedAddress database collection
  match store.backend.get? space id with
  | some stored => (store.compression.decode stored).map some
  | none => .ok none

/-- All documents of a collection. -/
def getAll (store : DocumentStore) (database collection : String) :
    Except StoreError (List Document) := do
  let space ← checkedAddress database collection
  store.load space

/-- The identifier of a new document: the given one, else the one it brings, else the
spare one. -/
def chooseId (given : Option String) (document : Document) (spare : String) :
    Except StoreError String :=
  match given with
  | some id => (validateId id).map fun _ => id
  | none => (ownId document).map fun own => own.getD spare

/-- The address and the document that an insertion of one body stores. -/
def prepareInsert (store : DocumentStore) (database collection : String) (given : Option String)
    (body : Json) : Except StoreError (String × String × Document) := do
  let space ← store.writableAddress database collection
  let document ← documentOfBody body
  let id ← chooseId given document (store.ids.id store.ids.given)
  .ok (space, id, withId id document)

/-- Inserts a document and answers it as it is stored. -/
def insert (store : DocumentStore) (database collection : String) (given : Option String)
    (body : Json) : Outcome Document :=
  let after := store.setAside 1
  match store.prepareInsert database collection given body with
  | .error error => (.error error, after)
  | .ok (space, id, document) =>
    match store.backend.insertNew space [(id, store.compression.encode document)] with
    | .error error => (.error error, after)
    | .ok backend => (.ok document, { after with backend })

/-- The documents that an insertion of several bodies stores, with their identifiers. The
number is that of the first body, and the identifiers seen so far may not come again. -/
def prepareItems (store : DocumentStore) (collection : String) :
    Nat → List String → List Json → Except StoreError (List (String × Document))
  | _, _, [] => .ok []
  | number, seen, body :: rest => do
    let document ← match body with
      | .object document => .ok document
      | other =>
        .error (.invalidDocument
          ("item " ++ toString number ++ ": expected a JSON object, got " ++ other.kindName))
    let own ← ownId document
    let id := own.getD (store.ids.id (store.ids.given + number))
    if seen.contains id then .error (.duplicateId id collection)
    else do
      let others ← prepareItems store collection (number + 1) (id :: seen) rest
      .ok ((id, withId id document) :: others)

/-- Inserts several documents, all or none, and answers their identifiers. -/
def insertMany (store : DocumentStore) (database collection : String) (bodies : List Json) :
    Outcome (List String) :=
  let after := store.setAside bodies.length
  let prepared := do
    let space ← store.writableAddress database collection
    let items ← store.prepareItems collection 0 [] bodies
    .ok (space, items)
  match prepared with
  | .error error => (.error error, after)
  | .ok (_, []) => (.ok [], after)
  | .ok (space, item :: items) =>
    let entries := (item :: items).map fun (id, document) => (id, store.compression.encode document)
    match store.backend.insertNew space entries with
    | .error error => (.error error, after)
    | .ok backend => (.ok ((item :: items).map Prod.fst), { after with backend })

/-- Replaces a document that is there and answers it as it is stored. -/
def replace (store : DocumentStore) (database collection id : String) (body : Json) :
    Outcome (Option Document) :=
  let prepared := do
    let space ← store.writableAddress database collection
    validateId id
    let document ← documentOfBody body
    .ok (space, withId id document)
  match prepared with
  | .error error => (.error error, store)
  | .ok (space, document) =>
    match store.backend.replace? space id (store.compression.encode document) with
    | some backend => (.ok (some document), { store with backend })
    | none => (.ok none, store)

/-- Deletes a document and says whether it was there. -/
def delete (store : DocumentStore) (database collection id : String) : Outcome Bool :=
  match store.writableAddress database collection with
  | .error error => (.error error, store)
  | .ok space =>
    let (deleted, backend) := store.backend.delete space id
    (.ok deleted, { store with backend })

/-- The documents that match a filter, as far as they are selected. -/
def find (store : DocumentStore) (database collection : String) (filter : Filter)
    (selection : Selection) : Except StoreError (List Document) := do
  let space ← checkedAddress database collection
  let loaded ← store.load space
  .ok (selection.select (loaded.filter filter.matches))

/-- The number of documents that match a filter. -/
def count (store : DocumentStore) (database collection : String) (filter : Filter) :
    Except StoreError Nat := do
  let space ← checkedAddress database collection
  let loaded ← store.load space
  .ok (loaded.countP filter.matches)

/-- The values that a document contributes at a path: those of an array one by one. -/
def contributed (field : String) (document : Document) : List Json :=
  match Json.resolve document field with
  | some (.array items) => items
  | some value => [value]
  | none => []

/-- Adds a value unless one that means the same is there. -/
def addDistinct (seen : List Json) (value : Json) : List Json :=
  if seen.any fun other => other.same value then seen else seen ++ [value]

/-- The distinct values at a path among the documents that match a filter, in the order
in which they come up. -/
def distinct (store : DocumentStore) (database collection field : String) (filter : Filter) :
    Except StoreError (List Json) := do
  let space ← checkedAddress database collection
  let loaded ← store.load space
  .ok (((loaded.filter filter.matches).flatMap (contributed field)).foldl addDistinct [])

/-- What a pipeline makes of the documents of a collection. -/
def aggregate (store : DocumentStore) (database collection : String) (pipeline : Pipeline) :
    Except StoreError (List Document) :=
  (store.getAll database collection).map pipeline.run

/-- Whether a collection holds documents. -/
def collectionExists (store : DocumentStore) (database collection : String) :
    Except StoreError Bool :=
  (checkedAddress database collection).map store.backend.contains

/-- Removes a collection and says whether it held documents. -/
def dropCollection (store : DocumentStore) (database collection : String) : Outcome Bool :=
  match store.writableAddress database collection with
  | .error error => (.error error, store)
  | .ok space =>
    let (dropped, backend) := store.backend.drop space
    (.ok dropped, { store with backend })

/-- The collection of a database that an address denotes. -/
def collectionAt? (database space : String) : Option String :=
  ((database ++ "/").toList.isPrefixOf? space.toList).map String.ofList

/-- The collections of a database that hold documents, in order. -/
def listCollections (store : DocumentStore) (database : String) : Except StoreError (List String) :=
  (validateName "database" database).map fun _ =>
    store.backend.spaces.filterMap (collectionAt? database)

end DocumentStore

end DocumentGateway

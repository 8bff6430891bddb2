import DocumentGateway.Proofs.Except
import DocumentGateway.Store.DocumentStore
import Mathlib.Control.Traversable.Instances
import Mathlib.Data.List.Dedup
import Mathlib.Data.String.Basic

/-!
# The catalogue of documents

What a document store means, said without tables, keys and texts. A catalogue is a plain
list of documents, each with the database, the collection and the identifier it is stored
under, and every call to a store is a simple change of the list or a question about it. The
checks of names, identifiers and bodies are those of the store. An insertion takes all of
its documents or none of them.
-/
namespace DocumentGateway

/-- A call to a document store. -/
inductive StoreCall where
  | insert (database collection : String) (given : Option String) (body : Json)
  | insertMany (database collection : String) (bodies : List Json)
  | get (database collection id : String)
  | getAll (database collection : String)
  | replace (database collection id : String) (body : Json)
  | delete (database collection id : String)
  | count (database collection : String) (filter : Filter)
  | collectionExists (database collection : String)
  | dropCollection (database collection : String)
  | listCollections (database : String)

/-- What a call is answered with. -/
inductive StoreAnswer where
  | document (outcome : Except StoreError Document)
  | ids (outcome : Except StoreError (List String))
  | found (outcome : Except StoreError (Option Document))
  | documents (outcome : Except StoreError (List Document))
  | decided (outcome : Except StoreError Bool)
  | counted (outcome : Except StoreError Nat)
  | named (outcome : Except StoreError (List String))

/-- The bodies that a call brings. -/
def StoreCall.bodies : StoreCall → List Json
  | .insert _ _ _ body => [body]
  | .insertMany _ _ bodies => bodies
  | .replace _ _ _ body => [body]
  | _ => []

namespace DocumentStore

/-- The answer of a store to a call, and the store after it. -/
def perform (store : DocumentStore) : StoreCall → StoreAnswer × DocumentStore
  | .insert database collection given body =>
    (store.insert database collection given body).map .document id
  | .insertMany database collection bodies =>
    (store.insertMany database collection bodies).map .ids id
  | .get database collection id => (.found (store.get database collection id), store)
  | .getAll database collection => (.documents (store.getAll database collection), store)
  | .replace database collection id body =>
    (store.replace database collection id body).map .found fun after => after
  | .delete database collection id =>
    (store.delete database collection id).map .decided fun after => after
  | .count database collection filter => (.counted (store.count database collection filter), store)
  | .collectionExists database collection =>
    (.decided (store.collectionExists database collection), store)
  | .dropCollection database collection =>
    (store.dropCollection database collection).map .decided id
  | .listCollections database => (.named (store.listCollections database), store)

/-- The answers of a store to a run of calls, in order. -/
def answers (store : DocumentStore) : List StoreCall → List StoreAnswer
  | [] => []
  | call :: rest => (store.perform call).1 :: (store.perform call).2.answers rest

end DocumentStore

/-- A document and what it is stored under. -/
structure Catalog.Entry where
  database : String
  collection : String
  id : String
  document : Document

/-- What an entry is found by. -/
def Catalog.Entry.place (entry : Entry) : String × String × String :=
  (entry.database, entry.collection, entry.id)

/-- The entry with another document, if the entry is found by the given place. -/
def Catalog.Entry.updated (place : String × String × String) (document : Document)
    (entry : Entry) : Entry :=
  if entry.place = place then { entry with document } else entry

/-- The documents of all collections in any order, with the collections that refuse writes
and the supply of identifiers. -/
structure Catalog where
  entries : List Catalog.Entry
  immutable : ImmutableSet
  ids : IdSupply

namespace Catalog

/-- The document with an identifier. -/
def find? (catalog : Catalog) (database collection id : String) : Option Document :=
  (catalog.entries.find? fun entry => entry.place = (database, collection, id)).map (·.document)

/-- The entries of a collection. -/
def within (catalog : Catalog) (database collection : String) : List Entry :=
  catalog.entries.filter fun entry => entry.database = database ∧ entry.collection = collection

/-- The documents of a collection in the order of their identifiers. -/
def listed (catalog : Catalog) (database collection : String) : List Document :=
  ((catalog.within database collection).mergeSort fun left right => left.id ≤ right.id).map
    (·.document)

/-- The collections of a database that hold documents, in order and each once. -/
def collections (catalog : Catalog) (database : String) : List String :=
  ((catalog.entries.filter (·.database = database)).map (·.collection)).dedup.mergeSort
    fun left right => left ≤ right

/-- The catalogue after identifiers have been set aside. -/
def setAside (catalog : Catalog) (count : Nat) : Catalog :=
  { catalog with ids := { catalog.ids with given := catalog.ids.given + count } }

/-- The catalogue with documents put into a collection. -/
def put (catalog : Catalog) (database collection : String) (items : List (String × Document)) :
    Catalog :=
  { catalog with
    entries := catalog.entries ++ items.map fun (id, document) =>
      ⟨database, collection, id, document⟩ }

/-- The catalogue with the entries that pass a test. -/
def keep (catalog : Catalog) (test : Entry → Bool) : Catalog :=
  { catalog with entries := catalog.entries.filter test }

/-- Checks both names of a collection. -/
def checkNames (database collection : String) : Except StoreError Unit := do
  validateName "database" database
  validateName "collection" collection

/-- Checks that a collection may be written to. -/
def checkWritable (catalog : Catalog) (database collection : String) : Except StoreError Unit := do
  checkNames database collection
  catalog.immutable.check database collection

/-- Refuses identifiers that are taken in a collection. -/
def checkFree (catalog : Catalog) (database collection : String) (ids : List String) :
    Except StoreError Unit :=
  match ids.find? fun id => (catalog.find? database collection id).isSome with
  | some id => .error (.duplicateId id collection)
  | none => .ok ()

/-- The document that an insertion adds, with its identifier. -/
def item (catalog : Catalog) (database collection : String) (given : Option String) (body : Json) :
    Except StoreError (String × Document) := do
  catalog.checkWritable database collection
  let document ← documentOfBody body
  let id ← DocumentStore.chooseId given document (catalog.ids.id catalog.ids.given)
  catalog.checkFree database collection [id]
  .ok (id, withId id document)

/-- Adds a document. -/
def insert (catalog : Catalog) (database collection : String) (given : Option String)
    (body : Json) : Except StoreError Document × Catalog :=
  let after := catalog.setAside 1
  match catalog.item database collection given body with
  | .error error => (.error error, after)
  | .ok item => (.ok item.2, after.put database collection [item])

/-- Joins the document of one more body to those before it, whose identifiers it may not
repeat. -/
def joinItem (ids : IdSupply) (collection : String) (before : List (String × Document))
    (numbered : Json × Nat) : Except StoreError (List (String × Document)) := do
  let (body, number) := numbered
  let document ← match body with
    | .object document => .ok document
    | other =>
      .error (.invalidDocument
        ("item " ++ toString number ++ ": expected a JSON object, got " ++ other.kindName))
  let own ← ownId document
  let id := own.getD (ids.id (ids.given + number))
  if id ∈ before.map Prod.fst then .error (.duplicateId id collection)
  else .ok (before ++ [(id, withId id document)])

/-- The documents that an insertion of several bodies adds, with their identifiers. -/
def items (catalog : Catalog) (database collection : String) (bodies : List Json) :
    Except StoreError (List (String × Document)) := do
  catalog.checkWritable database collection
  let items ← bodies.zipIdx.foldlM (joinItem catalog.ids collection) []
  catalog.checkFree database collection (items.map Prod.fst)
  .ok items

/-- Adds several documents, all or none. -/
def insertMany (catalog : Catalog) (database collection : String) (bodies : List Json) :
    Except StoreError (List String) × Catalog :=
  let after := catalog.setAside bodies.length
  match catalog.items database collection bodies with
  | .error error => (.error error, after)
  | .ok items => (.ok (items.map Prod.fst), after.put database collection items)

/-- The document that a replacement puts in the place of another. -/
def replacement (catalog : Catalog) (database collection id : String) (body : Json) :
    Except StoreError Document := do
  catalog.checkWritable database collection
  validateId id
  let document ← documentOfBody body
  .ok (withId id document)

/-- Replaces a document that is there. -/
def replace (catalog : Catalog) (database collection id : String) (body : Json) :
    Except StoreError (Option Document) × Catalog :=
  match catalog.replacement database collection id body with
  | .error error => (.error error, catalog)
  | .ok document =>
    if (catalog.find? database collection id).isSome then
      (.ok (some document),
        { catalog with entries := catalog.entries.map (.updated (database, collection, id) document) })
    else (.ok none, catalog)

/-- Deletes a document and says whether it was there. -/
def delete (catalog : Catalog) (database collection id : String) :
    Except StoreError Bool × Catalog :=
  match catalog.checkWritable database collection with
  | .error error => (.error error, catalog)
  | .ok _ =>
    (.ok (catalog.find? database collection id).isSome,
      catalog.keep fun entry => entry.place ≠ (database, collection, id))

/-- Removes a collection and says whether it held documents. -/
def dropCollection (catalog : Catalog) (database collection : String) :
    Except StoreError Bool × Catalog :=
  match catalog.checkWritable database collection with
  | .error error => (.error error, catalog)
  | .ok _ =>
    (.ok !(catalog.within database collection).isEmpty,
      catalog.keep fun entry => ¬ (entry.database = database ∧ entry.collection = collection))

/-- The answer of a catalogue to a call, and the catalogue after it. The documents that are
looked at are read in some way; to read them as they are is `Except.ok`. -/
def perform (read : Document → Except StoreError Document) (catalog : Catalog) :
    StoreCall → StoreAnswer × Catalog
  | .insert database collection given body =>
    (catalog.insert database collection given body).map .document id
  | .insertMany database collection bodies =>
    (catalog.insertMany database collection bodies).map .ids id
  | .get database collection id =>
    (.found do
      checkNames database collection
      (catalog.find? database collection id).mapM read, catalog)
  | .getAll database collection =>
    (.documents do
      checkNames database collection
      (catalog.listed database collection).mapM read, catalog)
  | .replace database collection id body =>
    (catalog.replace database collection id body).map .found fun after => after
  | .delete database collection id =>
    (catalog.delete database collection id).map .decided fun after => after
  | .count database collection filter =>
    (.counted do
      checkNames database collection
      let documents ← (catalog.listed database collection).mapM read
      .ok (documents.countP filter.matches), catalog)
  | .collectionExists database collection =>
    (.decided ((checkNames database collection).map fun _ =>
      !(catalog.within database collection).isEmpty), catalog)
  | .dropCollection database collection =>
    (catalog.dropCollection database collection).map .decided id
  | .listCollections database =>
    (.named ((validateName "database" database).map fun _ => catalog.collections database), catalog)

/-- The answers of a catalogue to a run of calls, in order. -/
def answers (read : Document → Except StoreError Document) (catalog : Catalog) :
    List StoreCall → List StoreAnswer
  | [] => []
  | call :: rest => (catalog.perform read call).1 :: (catalog.perform read call).2.answers read rest

/-! ## Laws -/

/-- No two entries are stored under the same. -/
def Unique (catalog : Catalog) : Prop :=
  (catalog.entries.map Entry.place).Nodup

/-- In a catalogue without repetitions, a document is found exactly where it is. -/
theorem find?_eq_some_iff {catalog : Catalog} (unique : catalog.Unique)
    (database collection id : String) (document : Document) :
    catalog.find? database collection id = some document ↔
      ⟨database, collection, id, document⟩ ∈ catalog.entries := by
  constructor
  · intro found
    obtain ⟨entry, search, rfl⟩ := Option.map_eq_some_iff.mp found
    have place : entry.place = (database, collection, id) := by
      simpa using List.find?_some search
    obtain ⟨rfl, rfl, rfl⟩ : entry.database = database ∧ entry.collection = collection ∧
        entry.id = id := by simpa [Entry.place] using place
    exact List.mem_of_find?_eq_some search
  · intro member
    cases search : catalog.entries.find? fun entry => entry.place = (database, collection, id) with
    | none =>
      have different := List.find?_eq_none.mp search _ member
      simp [Entry.place] at different
    | some entry =>
      have place : entry.place = (database, collection, id) := by
        simpa using List.find?_some search
      have same := List.inj_on_of_nodup_map unique (List.mem_of_find?_eq_some search) member place
      simp [find?, search, same]

/-- An update may change the document of an entry, not its place. -/
theorem Entry.updated_place (place : String × String × String) (document : Document)
    (entry : Entry) : (entry.updated place document).place = entry.place := by
  unfold updated
  split <;> rfl

/-- The entries of a collection are those with its two names. -/
theorem mem_within_iff {catalog : Catalog} {database collection : String} {entry : Entry} :
    entry ∈ catalog.within database collection ↔
      entry ∈ catalog.entries ∧ entry.database = database ∧ entry.collection = collection := by
  simp [within]

/-- One more body of a batch adds its document under an identifier that is new in it. -/
theorem joinItem_ok {ids : IdSupply} {collection : String} {before after : List (String × Document)}
    {body : Json} {number : Nat} (joined : joinItem ids collection before (body, number) = .ok after) :
    ∃ members id, body = .object members ∧ id ∉ before.map Prod.fst ∧
      after = before ++ [(id, withId id members)] := by
  cases body with
  | object members =>
    simp only [joinItem, bind_eq_ok_iff] at joined
    obtain ⟨_, read, own, -, step⟩ := joined
    obtain rfl := Except.ok.inj read
    split at step
    · cases step
    · rename_i fresh
      exact ⟨members, _, rfl, fresh, (Except.ok.inj step).symm⟩
  | _ => simp [joinItem, bind_eq_ok_iff] at joined

/-- The documents of a batch are those before it and those of its bodies, under different
identifiers. The induction is on the bodies still to be joined. -/
theorem joinItem_foldlM {ids : IdSupply} {collection : String} {bodies : List Json} :
    ∀ {number before items},
      (bodies.zipIdx number).foldlM (joinItem ids collection) before = .ok items →
        ((before.map Prod.fst).Nodup → (items.map Prod.fst).Nodup) ∧
          ∀ item ∈ items, item ∈ before ∨
            ∃ members, .object members ∈ bodies ∧ item.2 = withId item.1 members := by
  induction bodies with
  | nil =>
    intro number before items joined
    obtain rfl : before = items := Except.ok.inj joined
    exact ⟨id, fun item member => .inl member⟩
  | cons body rest inductionHypothesis =>
    intro number before items joined
    rw [List.zipIdx_cons, List.foldlM_cons] at joined
    obtain ⟨between, step, later⟩ := bind_eq_ok_iff.mp joined
    obtain ⟨members, id, rfl, fresh, rfl⟩ := joinItem_ok step
    obtain ⟨distinct, each⟩ := inductionHypothesis later
    refine ⟨fun beforeDistinct => distinct ?_, fun item member => ?_⟩
    · rw [List.map_append, List.map_singleton]
      exact beforeDistinct.append (List.nodup_singleton id) (by simpa using fresh)
    · rcases each item member with earlier | ⟨others, inRest, stored⟩
      · rcases List.mem_append.mp earlier with old | new
        · exact .inl old
        · obtain rfl := List.mem_singleton.mp new
          exact .inr ⟨members, List.mem_cons_self .., rfl⟩
      · exact .inr ⟨others, List.mem_cons_of_mem _ inRest, stored⟩

/-- A body with a document is an object. -/
theorem eq_object_of_documentOfBody {body : Json} {document : Document}
    (read : documentOfBody body = .ok document) : body = .object document := by
  cases body with
  | object members => exact congrArg Json.object (Except.ok.inj read)
  | _ => cases read

/-- What an insertion adds for a body is the body's document with an identifier put in. -/
theorem item_ok {catalog : Catalog} {database collection : String} {given : Option String}
    {body : Json} {item : String × Document}
    (prepared : catalog.item database collection given body = .ok item) :
    ∃ members, body = .object members ∧ item.2 = withId item.1 members := by
  simp only [Catalog.item, bind_eq_ok_iff] at prepared
  obtain ⟨_, -, members, readBody, id, -, _, -, made⟩ := prepared
  obtain rfl := Except.ok.inj made
  exact ⟨members, eq_object_of_documentOfBody readBody, rfl⟩

/-- What an insertion of several bodies adds are their documents with identifiers put in. -/
theorem items_ok {catalog : Catalog} {database collection : String} {bodies : List Json}
    {items : List (String × Document)}
    (prepared : catalog.items database collection bodies = .ok items) :
    ∀ item ∈ items, ∃ members, .object members ∈ bodies ∧ item.2 = withId item.1 members := by
  simp only [Catalog.items, bind_eq_ok_iff] at prepared
  obtain ⟨_, -, joinedItems, joined, _, -, made⟩ := prepared
  obtain rfl := Except.ok.inj made
  intro item member
  rcases (joinItem_foldlM joined).2 item member with before | fromBody
  · cases before
  · exact fromBody

/-- What a replacement puts in for a body is the body's document with the identifier. -/
theorem replacement_ok {catalog : Catalog} {database collection id : String} {body : Json}
    {document : Document}
    (prepared : catalog.replacement database collection id body = .ok document) :
    ∃ members, body = .object members ∧ document = withId id members := by
  simp only [Catalog.replacement, bind_eq_ok_iff] at prepared
  obtain ⟨_, -, _, -, members, readBody, made⟩ := prepared
  obtain rfl := Except.ok.inj made
  exact ⟨members, eq_object_of_documentOfBody readBody, rfl⟩

end Catalog

end DocumentGateway

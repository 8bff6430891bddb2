import DocumentGateway.Proofs.Json.Distinct
import DocumentGateway.Proofs.Json.Levels
import DocumentGateway.Proofs.Store.ImmutableCollection
import DocumentGateway.Proofs.Store.Refinement

/-!
# Stores that can be reached

A store is reached from an empty backend by operations and by closing and opening it again,
with other settings if one likes. Whatever has been done, every value in its backend is a
document that holds the identifier it is stored under, as some codec has written it. So the
documents that are read of a collection stand in the order of their identifiers, none of them
comes up twice, and each holds its keys once.
-/
namespace DocumentGateway

open FlatTable (NulFree)
open SortedMap (lookup)

/-! ## Labelled backends -/

/-- Every value that is found is a document with the identifier it is found under. -/
def Backend.Labelled (backend : Backend Stored) : Prop :=
  ∀ space key stored, NulFree space → backend.get? space key = some stored →
    ∃ (writer : Compression) (members : Document) (levels : Nat),
      (Json.object (withId key members)).Regular levels ∧
        stored = writer.encode (withId key members)

/-- In a fresh backend nothing is found that could be labelled wrongly. -/
theorem Backend.labelled_fresh {backend : Backend Stored} (fresh : backend.Fresh) :
    backend.Labelled := by
  intro space key stored _ found
  rcases fresh with rfl | rfl <;> cases found

/-- A backend in memory comes back empty and one in a file as it was. -/
theorem Backend.labelled_reopened {backend : Backend Stored} (labelled : backend.Labelled) :
    backend.reopened.Labelled := by
  cases backend with
  | memory table => exact labelled_fresh (.inl rfl)
  | file table => exact labelled

/-- A backend is still sound after it has been opened again. -/
theorem Backend.sound_reopened {backend : Backend Stored} (sound : backend.Sound) :
    backend.reopened.Sound := by
  cases backend with
  | memory table => exact NestedTable.sound_empty
  | file table => exact sound

/-- A document that is read of a stored one has the same keys and the same texts under
them. -/
theorem Compression.rereadMembers?_of_decode {writer reader : Compression}
    {document read : Document} {levels : Nat} (regular : (Json.object document).Regular levels)
    (decoded : reader.decode (writer.encode document) = .ok read) :
    Json.rereadMembers? document = some read := by
  have unpacked : reader.unpack? (writer.encode document) = some (Json.object document).toText := by
    by_cases same : reader.codec = writer.codec
    · have alike : reader.unpack? = writer.unpack? := by
        funext stored
        simp only [unpack?, same]
      rw [alike]
      exact writer.unpack?_pack _
    · rw [decode, encode, unpack?_pack_other same] at decoded
      cases decoded
  rw [decode, unpacked, Option.bind_some] at decoded
  cases found : Json.ofText? (Json.object document).toText with
  | none => simp [found] at decoded
  | some value =>
    have reread := Json.reread?_of_ofText? regular found
    rw [Json.reread?, Option.map_eq_some_iff] at reread
    obtain ⟨members, rereadMembers, rfl⟩ := reread
    obtain rfl : members = read := by simpa [found] using decoded
    exact rereadMembers

/-- The identifier is read as it was stored. -/
theorem Compression.id_of_decode {writer reader : Compression} {id : String}
    {members read : Document} {levels : Nat}
    (regular : (Json.object (withId id members)).Regular levels)
    (decoded : reader.decode (writer.encode (withId id members)) = .ok read) :
    Keyed.get? "_id" read = some (.string id) := by
  have reread := rereadMembers?_of_decode regular decoded
  rw [withId, Json.rereadMembers?] at reread
  cases others : Json.rereadMembers? (members.filter fun member => member.1 != "_id") with
  | none => simp [others, Json.reread?, bind, Option.bind] at reread
  | some rest =>
    obtain rfl : ("_id", Json.string id) :: rest = read := by
      simpa [others, Json.reread?, bind, Option.bind] using reread
    simp [Keyed.get?]

/-! ## What writes bring -/

namespace DocumentStore

/-- Every value of a later store that an earlier one did not have is the document of one of
the bodies, under its own identifier. -/
def Brings (before : DocumentStore) (bodies : List Json) (after : DocumentStore) : Prop :=
  ∀ space key stored, NulFree space → after.backend.get? space key = some stored →
    before.backend.get? space key = some stored ∨
      ∃ members, .object members ∈ bodies ∧
        stored = before.compression.encode (withId key members)

variable (store : DocumentStore) (database collection : String)

/-- A store brings nothing new to itself. -/
theorem Brings.refl (bodies : List Json) : Brings store bodies store :=
  fun _ _ _ _ found => .inl found

/-- An insertion brings its body at most. -/
theorem insert_brings (given : Option String) (body : Json) :
    Brings store [body] (store.insert database collection given body).2 := by
  unfold insert
  cases prepared : store.prepareInsert database collection given body with
  | error error => exact .refl store [body]
  | ok item =>
    obtain ⟨space, id, document⟩ := item
    obtain ⟨writable, members, rfl, -, rfl⟩ :=
      store.prepareInsert_ok database collection prepared
    dsimp only
    split
    · exact .refl store _
    · rename_i backend inserted
      intro other key stored named found
      have contents := (Backend.insertNew_ok (nulFree_of_writableAddress writable) (by simp)
        inserted).2 other key named
      rw [contents] at found
      split at found
      · by_cases same : id = key
        · subst same
          exact .inr ⟨members, by simp, by simpa [lookup] using found.symm⟩
        · exact .inl (by simpa [lookup, same] using found)
      · exact .inl found

/-- The items of a batch are the documents of its bodies with their identifiers. -/
theorem prepareItems_body {bodies : List Json} {items : List (String × Document)}
    (prepared : store.prepareItems collection 0 [] bodies = .ok items) :
    ∀ item ∈ items, ∃ members, .object members ∈ bodies ∧ item.2 = withId item.1 members := by
  have joined := prepareItems_eq store collection bodies 0 [] [] (by simp)
  rw [prepared] at joined
  intro item member
  rcases (Catalog.joinItem_foldlM joined).2 item (by simpa using member) with before | fromBody
  · cases before
  · exact fromBody

/-- A batch brings its bodies at most. -/
theorem insertMany_brings (bodies : List Json) :
    Brings store bodies (store.insertMany database collection bodies).2 := by
  unfold insertMany
  dsimp only
  split
  · exact .refl store bodies
  · exact .refl store bodies
  · rename_i space item items prepared
    obtain ⟨writable, distinct⟩ := store.preparedMany_ok database collection prepared
    simp only [bind_eq_ok_iff] at prepared
    obtain ⟨_, -, ready, itemsPrepared, made⟩ := prepared
    obtain ⟨-, rfl⟩ := Prod.mk.inj (Except.ok.inj made)
    have fromBodies := store.prepareItems_body collection itemsPrepared
    split
    · exact .refl store bodies
    · rename_i backend inserted
      have entriesDistinct : ((store.compression.records (item :: items)).map Prod.fst).Nodup :=
        (store.compression.keys_records (item :: items)).symm ▸ distinct
      intro other key stored named found
      have contents := (Backend.insertNew_ok (nulFree_of_writableAddress writable)
        entriesDistinct inserted).2 other key named
      rw [contents] at found
      split at found
      · rcases Option.or_eq_some_iff.mp found with brought | ⟨-, before⟩
        · obtain ⟨entry, member, rfl, rfl⟩ :=
            (store.compression.lookup_records_eq_some_iff distinct).mp brought
          obtain ⟨members, inBodies, made⟩ := fromBodies entry member
          exact .inr ⟨members, inBodies, congrArg store.compression.encode made⟩
        · exact .inl before
      · exact .inl found

/-- A replacement brings its body at most. -/
theorem replace_brings (id : String) (body : Json) :
    Brings store [body] (store.replace database collection id body).2 := by
  unfold replace
  dsimp only
  split
  · exact .refl store [body]
  · rename_i space document prepared
    obtain ⟨writable, members, rfl, rfl⟩ :=
      store.preparedReplacement_ok database collection prepared
    split
    · rename_i backend replaced
      intro other key stored named found
      have contents := (Backend.replace?_some (nulFree_of_writableAddress writable)
        replaced).2 other key named
      rw [contents] at found
      split at found
      · rename_i here
        obtain ⟨-, rfl⟩ := here
        exact .inr ⟨members, by simp, (Option.some.inj found).symm⟩
      · exact .inl found
    · exact .refl store _

/-- A deletion brings nothing. -/
theorem delete_brings (bodies : List Json) (id : String) :
    Brings store bodies (store.delete database collection id).2 := by
  unfold delete
  split
  · exact .refl store bodies
  · rename_i space writable
    intro other key stored named found
    have contents :=
      store.backend.get?_delete id key (nulFree_of_writableAddress writable) named
    have kept := contents.symm.trans found
    exact .inl (Option.ite_none_left_eq_some.mp kept).2

/-- A dropping brings nothing. -/
theorem dropCollection_brings (bodies : List Json) :
    Brings store bodies (store.dropCollection database collection).2 := by
  unfold dropCollection
  split
  · exact .refl store bodies
  · rename_i space writable
    intro other key stored named found
    have contents := store.backend.get?_drop key (nulFree_of_writableAddress writable) named
    have kept := contents.symm.trans found
    exact .inl (Option.ite_none_left_eq_some.mp kept).2

/-- The body that a probe inserts for a while. -/
def probeBody : Json :=
  .object [("probe", .bool true)]

/-- A probe brings the body of probes at most. -/
theorem roundTrip_brings (id : String) :
    Brings store [probeBody] (Service.roundTrip store database collection id).2 := by
  have inserted := store.insert_brings database collection (some id) probeBody
  rcases store.roundTrip_cases database collection id with ⟨error, -, refused⟩ | ⟨-, undone⟩
  · rw [refused]
    exact inserted
  · rw [undone]
    intro space key stored named found
    rcases delete_brings _ database collection [] id space key stored named found with
      before | ⟨members, inBodies, -⟩
    · exact inserted space key stored named before
    · cases inBodies

end DocumentStore

/-! ## Operations -/

/-- The bodies that an operation brings to a store. -/
def StoreOperation.bodies : StoreOperation → List Json
  | .call made => made.bodies
  | .probe _ _ _ => [DocumentStore.probeBody]
  | _ => []

namespace DocumentStore

/-- An operation brings its own bodies only. -/
theorem after_brings (store : DocumentStore) (operation : StoreOperation) :
    Brings store operation.bodies (store.after operation) := by
  cases operation with
  | call call =>
    cases call with
    | insert database collection given body =>
      exact store.insert_brings database collection given body
    | insertMany database collection bodies => exact store.insertMany_brings database collection bodies
    | replace database collection id body => exact store.replace_brings database collection id body
    | delete database collection id => exact store.delete_brings database collection [] id
    | dropCollection database collection => exact store.dropCollection_brings database collection []
    | get | getAll | count | collectionExists | listCollections => exact .refl store []
  | probe database collection id => exact store.roundTrip_brings database collection id
  | find | distinct | aggregate => exact .refl store []

/-- A store that can be reached: over a backend that nothing has been put into, after
operations with regular bodies of any depth, and after it has been closed and opened again,
be it with other settings. -/
inductive Reachable : DocumentStore → Prop where
  | opened {backend : Backend Stored} (fresh : backend.Fresh) (compression : Compression)
      (immutable : ImmutableSet) (ids : IdSupply) :
      Reachable { backend, compression, immutable, ids }
  | reopened {store : DocumentStore} (reachable : Reachable store) (compression : Compression)
      (immutable : ImmutableSet) (ids : IdSupply) :
      Reachable { backend := store.backend.reopened, compression, immutable, ids }
  | operated {store : DocumentStore} (reachable : Reachable store) (operation : StoreOperation)
      (regular : ∀ body ∈ operation.bodies, ∃ levels, body.Regular levels) :
      Reachable (store.after operation)

/-- The backend of a store that can be reached is labelled. The induction follows the way
on which the store is reached. -/
theorem Reachable.labelled {store : DocumentStore} (reachable : store.Reachable) :
    store.backend.Labelled := by
  induction reachable with
  | opened fresh => exact Backend.labelled_fresh fresh
  | reopened reachable compression immutable ids labelled => exact Backend.labelled_reopened labelled
  | @operated store reachable operation regular labelled =>
    intro space key stored named found
    rcases store.after_brings operation space key stored named found with
      before | ⟨members, inBodies, made⟩
    · exact labelled space key stored named before
    · obtain ⟨levels, bodyRegular⟩ := regular (.object members) inBodies
      exact ⟨store.compression, members, levels, regular_withId bodyRegular key, made⟩

/-- The backend of a store that can be reached is sound: no namespace in it is without a key. -/
theorem Reachable.sound {store : DocumentStore} (reachable : store.Reachable) :
    store.backend.Sound := by
  induction reachable with
  | opened fresh =>
    rcases fresh with rfl | rfl
    · exact NestedTable.sound_empty
    · exact FlatTable.sound_empty
  | reopened reachable compression immutable ids sound => exact Backend.sound_reopened sound
  | @operated store reachable operation regular sound =>
    exact after_keeps (fun _ sound => sound) (fun first second sound => second (first sound))
      Changed.sound_after store operation sound

/-! ## Documents of a collection -/

/-- The documents that are read of labelled values hold the identifiers of these. -/
theorem ids_of_labelled {reader : Compression} {entries : List (String × Stored)}
    {documents : List Document}
    (decoded : List.Forall₂ (fun entry document => reader.decode entry.2 = .ok document) entries
      documents)
    (labelled : ∀ entry ∈ entries, ∃ (writer : Compression) (members : Document) (levels : Nat),
      (Json.object (withId entry.1 members)).Regular levels ∧
        entry.2 = writer.encode (withId entry.1 members)) :
    documents.map (Keyed.get? "_id") = (entries.map Prod.fst).map fun id => some (.string id) := by
  induction decoded with
  | nil => rfl
  | @cons entry document entries documents read _ inductionHypothesis =>
    obtain ⟨⟨writer, members, levels, regular, stored⟩, others⟩ := List.forall_mem_cons.mp labelled
    rw [stored] at read
    rw [List.map_cons, List.map_cons, List.map_cons, Compression.id_of_decode regular read,
      inductionHypothesis others]

/-- The documents of a collection are read of its entries in the order of their keys, which some
codec has written. -/
theorem entries_of_getAll {store : DocumentStore} (reachable : store.Reachable)
    {database collection : String} {documents : List Document}
    (read : store.getAll database collection = .ok documents) :
    ∃ entries : List (String × Stored), (entries.map Prod.fst).Pairwise (· < ·) ∧
      List.Forall₂ (fun entry document => store.compression.decode entry.2 = .ok document) entries
        documents ∧
      ∀ entry ∈ entries, ∃ (writer : Compression) (members : Document) (levels : Nat),
        (Json.object (withId entry.1 members)).Regular levels ∧
          entry.2 = writer.encode (withId entry.1 members) := by
  obtain ⟨space, checked, loaded⟩ := bind_eq_ok_iff.mp read
  obtain ⟨entries, values, increasing, found⟩ := store.backend.values_keyed space
  rw [load, values] at loaded
  refine ⟨entries, increasing, List.forall₂_map_left_iff.mp (forall₂_of_mapM loaded), ?_⟩
  intro entry member
  exact reachable.labelled space entry.1 entry.2 (nulFree_of_checkedAddress checked)
    (found entry member)

/-- The documents of a collection are read in the order of their identifiers, which increase. -/
theorem ids_of_getAll {store : DocumentStore} (reachable : store.Reachable)
    {database collection : String} {documents : List Document}
    (read : store.getAll database collection = .ok documents) :
    ∃ ids : List String, ids.Pairwise (· < ·) ∧
      documents.map (Keyed.get? "_id") = ids.map fun id => some (.string id) := by
  obtain ⟨entries, increasing, decoded, labelled⟩ := entries_of_getAll reachable read
  exact ⟨entries.map Prod.fst, increasing, ids_of_labelled decoded labelled⟩

/-- The documents of a collection hold different identifiers, so each of them comes up
once. -/
theorem getAll_nodup {store : DocumentStore} (reachable : store.Reachable)
    {database collection : String} {documents : List Document}
    (read : store.getAll database collection = .ok documents) : documents.Nodup := by
  obtain ⟨ids, increasing, identified⟩ := ids_of_getAll reachable read
  have distinct : ids.Nodup := increasing.imp ne_of_lt
  have idsDistinct : (documents.map (Keyed.get? "_id")).Nodup := by
    rw [identified]
    exact distinct.map fun left right same => Json.string.inj (Option.some.inj same)
  exact idsDistinct.of_map _

/-- The documents of a collection hold each key once, at every level. -/
theorem getAll_distinct {store : DocumentStore} (reachable : store.Reachable)
    {database collection : String} {documents : List Document}
    (read : store.getAll database collection = .ok documents) :
    ∀ document ∈ documents, (Json.object document).Distinct := by
  obtain ⟨entries, -, decoded, labelled⟩ := entries_of_getAll reachable read
  clear read
  induction decoded with
  | nil => exact fun document member => absurd member List.not_mem_nil
  | @cons entry document entries documents readEntry _ inductionHypothesis =>
    obtain ⟨⟨writer, members, levels, regular, stored⟩, others⟩ := List.forall_mem_cons.mp labelled
    rw [stored] at readEntry
    have reread := Compression.rereadMembers?_of_decode regular readEntry
    have distinct : (Json.object document).Distinct :=
      regular.distinct_reread (by rw [Json.reread?, reread, Option.map_some])
    exact List.forall_mem_cons.mpr ⟨distinct, inductionHypothesis others⟩

end DocumentStore

end DocumentGateway

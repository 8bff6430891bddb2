import DocumentGateway.Access.Scope
import DocumentGateway.Proofs.Store.FailedWrite
import DocumentGateway.Proofs.Store.SameCollection
import DocumentGateway.Proofs.Store.Writing

/-!
# What writes do to collections

A write changes the backend under the address of its own collection only, so what a store
shows of all other collections stays the same, and what it shows of an immutable
collection never changes. In its own collection an insertion keeps the documents that are
there, a replacement adds and removes no identifier, and a removal brings nothing new.
All writing operations are taken through one relation, which says what each of them can
do to a store.
-/
namespace DocumentGateway.DocumentStore

open FlatTable (NulFree)
open SortedMap (lookup)

/-- What a write at a collection may make of a store, by the permission the write needs. A
write that is refused or finds nothing to change sets at most identifiers aside. -/
inductive Changed (before : DocumentStore) (database collection : String) :
    Permission → DocumentStore → Prop where
  | nothing (permission : Permission) (count : Nat) :
      Changed before database collection permission (before.setAside count)
  | inserted {space : String} {entries : List (String × Stored)} {backend : Backend Stored}
      (count : Nat) (writable : before.writableAddress database collection = .ok space)
      (nonempty : entries ≠ []) (distinct : (entries.map Prod.fst).Nodup)
      (stored : before.backend.insertNew space entries = .ok backend) :
      Changed before database collection .insert { before.setAside count with backend }
  | replaced {space id : String} {value : Stored} {backend : Backend Stored}
      (writable : before.writableAddress database collection = .ok space)
      (replaced : before.backend.replace? space id value = some backend) :
      Changed before database collection .update { before with backend }
  | deleted {space : String} (id : String)
      (writable : before.writableAddress database collection = .ok space) :
      Changed before database collection .delete
        { before with backend := (before.backend.delete space id).2 }
  | dropped {space : String} (writable : before.writableAddress database collection = .ok space) :
      Changed before database collection .delete
        { before with backend := (before.backend.drop space).2 }

/-! ## The writing operations -/

section

variable (store : DocumentStore) (database collection : String)

/-- An insertion changes its collection in the ways of insertions only. -/
theorem insert_changed (given : Option String) (body : Json) :
    Changed store database collection .insert (store.insert database collection given body).2 := by
  unfold insert
  cases prepared : store.prepareInsert database collection given body with
  | error error => exact .nothing .insert 1
  | ok item =>
    obtain ⟨space, id, document⟩ := item
    obtain ⟨writable, -⟩ := store.prepareInsert_ok database collection prepared
    dsimp only
    split
    · exact .nothing .insert 1
    · rename_i backend stored
      exact .inserted 1 writable (by simp) (by simp) stored

/-- What is prepared for a batch has an address for writing and different identifiers. -/
theorem preparedMany_ok {bodies : List Json} {space : String} {items : List (String × Document)}
    (prepared : (do
      let space ← store.writableAddress database collection
      let items ← store.prepareItems collection 0 [] bodies
      Except.ok (space, items)) = .ok (space, items)) :
    store.writableAddress database collection = .ok space ∧ (items.map Prod.fst).Nodup := by
  simp only [bind_eq_ok_iff] at prepared
  obtain ⟨checked, writable, ready, itemsPrepared, made⟩ := prepared
  obtain ⟨rfl, rfl⟩ := Prod.mk.inj (Except.ok.inj made)
  exact ⟨writable, prepareItems_distinct itemsPrepared⟩

/-- What is prepared for a replacement is the document of its body with the identifier, for a
collection that may be written to. -/
theorem preparedReplacement_ok {id : String} {body : Json} {space : String} {document : Document}
    (prepared : (do
      let space ← store.writableAddress database collection
      validateId id
      let document ← documentOfBody body
      Except.ok (space, withId id document)) = .ok (space, document)) :
    store.writableAddress database collection = .ok space ∧
      ∃ members, body = .object members ∧ document = withId id members := by
  simp only [bind_eq_ok_iff] at prepared
  obtain ⟨checked, writable, _, -, members, read, made⟩ := prepared
  obtain ⟨rfl, rfl⟩ := Prod.mk.inj (Except.ok.inj made)
  refine ⟨writable, members, ?_, rfl⟩
  cases body with
  | object document => exact congrArg Json.object (Except.ok.inj read)
  | _ => cases read

/-- A batch changes its collection in the ways of insertions only. -/
theorem insertMany_changed (bodies : List Json) :
    Changed store database collection .insert (store.insertMany database collection bodies).2 := by
  unfold insertMany
  dsimp only
  split
  · exact .nothing .insert bodies.length
  · exact .nothing .insert bodies.length
  · rename_i space item items prepared
    obtain ⟨writable, distinct⟩ := store.preparedMany_ok database collection prepared
    split
    · exact .nothing .insert bodies.length
    · rename_i backend stored
      refine .inserted bodies.length writable (by simp) ?_ stored
      rw [List.map_map]
      exact distinct

/-- A replacement changes its collection in the ways of updates only. -/
theorem replace_changed (id : String) (body : Json) :
    Changed store database collection .update (store.replace database collection id body).2 := by
  unfold replace
  dsimp only
  split
  · exact .nothing .update 0
  · rename_i space document prepared
    obtain ⟨writable, -⟩ := store.preparedReplacement_ok database collection prepared
    split
    · rename_i backend replaced
      exact .replaced writable replaced
    · exact .nothing .update 0

/-- A deletion changes its collection in the ways of deletions only. -/
theorem delete_changed (id : String) :
    Changed store database collection .delete (store.delete database collection id).2 := by
  unfold delete
  split
  · exact .nothing .delete 0
  · rename_i space writable
    exact .deleted id writable

/-- The removal of a collection changes it in the ways of deletions only. -/
theorem dropCollection_changed :
    Changed store database collection .delete (store.dropCollection database collection).2 := by
  unfold dropCollection
  split
  · exact .nothing .delete 0
  · rename_i space writable
    exact .dropped writable

end

namespace Changed

variable {before after : DocumentStore} {database collection : String} {permission : Permission}
variable (changed : Changed before database collection permission after)

include changed

/-- No write changes how documents are stored. -/
theorem compression_eq : after.compression = before.compression := by
  cases changed <;> rfl

/-- No write changes which collections are immutable. -/
theorem immutable_eq : after.immutable = before.immutable := by
  cases changed <;> rfl

/-- A write keeps the backend sound. -/
theorem sound_after (sound : before.backend.Sound) : after.backend.Sound := by
  cases changed with
  | nothing permission count => exact sound
  | inserted count writable nonempty distinct stored =>
    exact Backend.sound_insertNew (nulFree_of_writableAddress writable) nonempty distinct stored sound
  | replaced writable replaced =>
    exact Backend.sound_replace? (nulFree_of_writableAddress writable) replaced sound
  | deleted id writable => exact Backend.sound_delete _ id sound
  | dropped writable => exact Backend.sound_drop _ sound

/-- Under any namespace that the write may not reach, the same is found and it is there or
not as before. -/
theorem elsewhere {other : String} (otherNamed : NulFree other)
    (unreached : ∀ space, before.writableAddress database collection = .ok space → space ≠ other) :
    (∀ key, after.backend.get? other key = before.backend.get? other key) ∧
      (after.backend.contains other = true ↔ before.backend.contains other = true) := by
  cases changed with
  | nothing permission count => exact ⟨fun _ => rfl, Iff.rfl⟩
  | @inserted space entries backend count writable nonempty distinct stored =>
    have spaceNamed := nulFree_of_writableAddress writable
    have different := unreached space writable
    obtain ⟨-, contents⟩ := Backend.insertNew_ok spaceNamed distinct stored
    refine ⟨fun key => (contents other key otherNamed).trans (if_neg different), ?_⟩
    refine (Backend.contains_insertNew spaceNamed otherNamed nonempty stored).trans ?_
    exact or_iff_right different
  | @replaced space id value backend writable replaced =>
    have spaceNamed := nulFree_of_writableAddress writable
    obtain ⟨-, contents⟩ := Backend.replace?_some spaceNamed replaced
    refine ⟨fun key => (contents other key otherNamed).trans (if_neg ?_), ?_⟩
    · exact fun both => unreached space writable both.1
    · exact Backend.contains_replace? spaceNamed otherNamed replaced
  | @deleted space id writable =>
    have spaceNamed := nulFree_of_writableAddress writable
    have different := unreached space writable
    refine ⟨fun key => ?_, ?_⟩
    · refine (Backend.get?_delete before.backend id key spaceNamed otherNamed).trans (if_neg ?_)
      exact fun both => different both.1
    · refine (Backend.contains_delete before.backend id spaceNamed otherNamed).trans ?_
      exact and_iff_left fun same => absurd same different
  | @dropped space writable =>
    have spaceNamed := nulFree_of_writableAddress writable
    have different := unreached space writable
    refine ⟨fun key => ?_, ?_⟩
    · exact (Backend.get?_drop before.backend key spaceNamed otherNamed).trans (if_neg different)
    · refine (Backend.contains_drop before.backend spaceNamed otherNamed).trans ?_
      exact and_iff_right different

/-- What is shown of another collection stays the same, and so does what is shown of a
collection that may not be written to. -/
theorem sameCollection {otherDatabase otherCollection : String}
    (unreached : (otherDatabase, otherCollection) = (database, collection) →
      before.immutable.contains database collection = true) :
    SameCollection before after otherDatabase otherCollection := by
  refine (sameCollection_iff changed.compression_eq.symm).mpr fun other checked => ?_
  obtain ⟨validDatabase, validCollection, rfl⟩ := (checkedAddress_ok_iff _ _ _).mp checked
  have different : ∀ space, before.writableAddress database collection = .ok space →
      space ≠ address otherDatabase otherCollection := by
    intro space writable same
    obtain ⟨reached, mutable⟩ := (writableAddress_ok_iff _ _ _ _).mp writable
    obtain ⟨reachedValid, -, rfl⟩ := (checkedAddress_ok_iff _ _ _).mp reached
    obtain ⟨rfl, rfl⟩ := (address_inj reachedValid validDatabase).mp same
    rw [unreached rfl] at mutable
    cases mutable
  obtain ⟨found, present⟩ :=
    changed.elsewhere (nulFree_address validDatabase validCollection) different
  exact ⟨fun key => by rw [found], present.symm⟩

/-- What does not write shows the same of every collection. -/
theorem sameCollection_of_read (reading : permission = .read)
    (otherDatabase otherCollection : String) :
    SameCollection before after otherDatabase otherCollection := by
  cases changed with
  | nothing permission count => exact ⟨fun _ => rfl, rfl⟩
  | inserted | replaced | deleted | dropped => cases reading

/-- What a write can do to the value under a key: an insertion fills it if it is empty, a
replacement exchanges it, a removal empties it, and otherwise it stays the same. -/
theorem found_cases {other : String} (otherNamed : NulFree other) (key : String) :
    after.backend.get? other key = before.backend.get? other key ∨
      (permission = .insert ∧ before.backend.get? other key = none) ∨
      (permission = .update ∧ before.backend.get? other key ≠ none ∧
        after.backend.get? other key ≠ none) ∨
      (permission = .delete ∧ after.backend.get? other key = none) := by
  cases changed with
  | nothing permission count => exact .inl rfl
  | @inserted space entries backend count writable nonempty distinct stored =>
    have spaceNamed := nulFree_of_writableAddress writable
    obtain ⟨free, contents⟩ := Backend.insertNew_ok spaceNamed distinct stored
    have here := contents other key otherNamed
    by_cases same : space = other
    · subst same
      cases brought : lookup key entries with
      | none => exact .inl (by simpa [brought] using here)
      | some value =>
        have member := (SortedMap.lookup_eq_some_iff distinct).mp brought
        exact .inr (.inl ⟨rfl, free (key, value) member⟩)
    · exact .inl (here.trans (if_neg same))
  | @replaced space id value backend writable replaced =>
    have spaceNamed := nulFree_of_writableAddress writable
    obtain ⟨present, contents⟩ := Backend.replace?_some spaceNamed replaced
    have here := contents other key otherNamed
    by_cases same : space = other ∧ id = key
    · obtain ⟨rfl, rfl⟩ := same
      refine .inr (.inr (.inl ⟨rfl, Option.isSome_iff_ne_none.mp present, ?_⟩))
      change backend.get? space id ≠ none
      simp [here]
    · exact .inl (here.trans (if_neg same))
  | @deleted space id writable =>
    have spaceNamed := nulFree_of_writableAddress writable
    have here := before.backend.get?_delete id key spaceNamed otherNamed
    by_cases same : space = other ∧ id = key
    · exact .inr (.inr (.inr ⟨rfl, here.trans (if_pos same)⟩))
    · exact .inl (here.trans (if_neg same))
  | @dropped space writable =>
    have spaceNamed := nulFree_of_writableAddress writable
    have here := before.backend.get?_drop key spaceNamed otherNamed
    by_cases same : space = other
    · exact .inr (.inr (.inr ⟨rfl, here.trans (if_pos same)⟩))
    · exact .inl (here.trans (if_neg same))

/-- What a write can do to the document under an identifier, in any collection. -/
theorem document_cases (otherDatabase otherCollection id : String) :
    after.get otherDatabase otherCollection id = before.get otherDatabase otherCollection id ∨
      (permission = .insert ∧ before.get otherDatabase otherCollection id = .ok none) ∨
      (permission = .update ∧ before.get otherDatabase otherCollection id ≠ .ok none ∧
        after.get otherDatabase otherCollection id ≠ .ok none) ∨
      (permission = .delete ∧ after.get otherDatabase otherCollection id = .ok none) := by
  cases checked : checkedAddress otherDatabase otherCollection with
  | error error =>
    left
    rw [get, get, checked]
    rfl
  | ok space =>
    simp only [ne_eq, get_eq_none_iff checked]
    refine (changed.found_cases (nulFree_of_checkedAddress checked) id).imp_left fun same => ?_
    rw [get_of_checked checked, get_of_checked checked, same, changed.compression_eq]

/-- Only an update or a removal touches a document that is there, only an insertion brings
one, and only a removal takes one away. -/
theorem document_kept (otherDatabase otherCollection id : String) :
    let document := before.get otherDatabase otherCollection id
    let documentAfter := after.get otherDatabase otherCollection id
    (permission ≠ .update → permission ≠ .delete → document ≠ .ok none →
        documentAfter = document) ∧
      (permission ≠ .insert → document = .ok none → documentAfter = .ok none) ∧
      (permission ≠ .delete → document ≠ .ok none → documentAfter ≠ .ok none) := by
  intro document documentAfter
  rcases changed.document_cases otherDatabase otherCollection id with
    same | ⟨inserts, absent⟩ | ⟨updates, present, stays⟩ | ⟨deletes, gone⟩
  · have unchanged : documentAfter = document := same
    rw [unchanged]
    exact ⟨fun _ _ _ => rfl, fun _ absent => absent, fun _ present => present⟩
  · exact ⟨fun _ _ present => absurd absent present, fun other => absurd inserts other,
      fun _ present => absurd absent present⟩
  · exact ⟨fun other => absurd updates other, fun _ absent => absurd absent present,
      fun _ _ => stays⟩
  · exact ⟨fun _ other => absurd deletes other, fun _ _ => gone,
      fun other => absurd deletes other⟩

end Changed

end DocumentGateway.DocumentStore

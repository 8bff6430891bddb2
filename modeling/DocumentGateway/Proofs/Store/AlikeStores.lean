import DocumentGateway.Proofs.Store.CollectionWrites

/-!
# Stores that are alike on some collections

Two stores with the same settings and the same supply of identifiers are alike on a family
of collections if they show the same of each of them. Every operation on a collection of
the family is answered alike by such stores and leaves them alike: what else the stores
hold has no part in the answer and is not brought into the family.
-/
namespace DocumentGateway.DocumentStore

open Backend (AlikeAt)
open FlatTable (NulFree)

/-- Two stores that are set up alike and show the same of all visible collections. -/
structure AlikeOn (visible : String → String → Prop) (left right : DocumentStore) : Prop where
  compression : left.compression = right.compression
  immutable : left.immutable = right.immutable
  ids : left.ids = right.ids
  collections : ∀ database collection, visible database collection →
    SameCollection left right database collection

namespace AlikeOn

variable {visible : String → String → Prop} {left right : DocumentStore}
variable {database collection : String}

/-- Both stores set the same number of identifiers aside and stay alike. -/
theorem setAside (alike : AlikeOn visible left right) (count : Nat) :
    AlikeOn visible (left.setAside count) (right.setAside count) := by
  refine ⟨alike.compression, alike.immutable, ?_, fun database collection seen => ?_⟩
  · rw [DocumentStore.setAside, DocumentStore.setAside, alike.ids]
  · have same := alike.collections database collection seen
    exact ⟨same.document, same.existence⟩

/-- Stores are alike after writes at one collection if they show the same of it then. -/
theorem after_changes {leftAfter rightAfter : DocumentStore} {permission : Permission}
    {space : String} (alike : AlikeOn visible left right)
    (writable : left.writableAddress database collection = .ok space)
    (leftChanged : Changed left database collection permission leftAfter)
    (rightChanged : Changed right database collection permission rightAfter)
    (ids : leftAfter.ids = rightAfter.ids)
    (here : AlikeAt left.compression.decode leftAfter.backend rightAfter.backend space) :
    AlikeOn visible leftAfter rightAfter := by
  have compression : leftAfter.compression = rightAfter.compression := by
    rw [leftChanged.compression_eq, rightChanged.compression_eq, alike.compression]
  refine ⟨compression, ?_, ids, fun other otherCollection seen => ?_⟩
  · rw [leftChanged.immutable_eq, rightChanged.immutable_eq, alike.immutable]
  · by_cases same : (other, otherCollection) = (database, collection)
    · obtain ⟨rfl, rfl⟩ := Prod.mk.inj same
      refine (sameCollection_iff compression).mpr fun checkedSpace checked => ?_
      have reached := ((writableAddress_ok_iff _ _ _ _).mp writable).1
      obtain rfl : space = checkedSpace := Except.ok.inj (reached.symm.trans checked)
      rw [leftChanged.compression_eq]
      exact here
    · have leftSame := leftChanged.sameCollection fun reached => absurd reached same
      have rightSame := rightChanged.sameCollection fun reached => absurd reached same
      exact leftSame.symm.trans ((alike.collections other otherCollection seen).trans rightSame)

variable (alike : AlikeOn visible left right)

include alike

/-- Alike stores encode documents alike. -/
theorem encode_eq : left.compression.encode = right.compression.encode := by
  rw [alike.compression]

/-- Alike stores refuse writes to the same collections. -/
theorem writableAddress_eq (database collection : String) :
    left.writableAddress database collection = right.writableAddress database collection := by
  rw [writableAddress, writableAddress, alike.immutable]

variable (seen : visible database collection)

include seen

/-- The backends are alike under the address of a visible collection. -/
theorem alikeAt {space : String} (writable : left.writableAddress database collection = .ok space) :
    NulFree space ∧ AlikeAt left.compression.decode left.backend right.backend space := by
  have checked := ((writableAddress_ok_iff _ _ _ _).mp writable).1
  exact ⟨nulFree_of_checkedAddress checked,
    (sameCollection_iff alike.compression).mp (alike.collections _ _ seen) space checked⟩

/-! ## Writes -/

/-- Entries are refused alike or stored alike in a visible collection. -/
theorem insertNew {space : String} {entries : List (String × Stored)}
    (writable : left.writableAddress database collection = .ok space) (nonempty : entries ≠ [])
    (distinct : (entries.map Prod.fst).Nodup) :
    (∃ error, left.backend.insertNew space entries = .error error ∧
        right.backend.insertNew space entries = .error error) ∨
      ∃ leftBackend rightBackend, left.backend.insertNew space entries = .ok leftBackend ∧
        right.backend.insertNew space entries = .ok rightBackend ∧
        ∀ count, AlikeOn visible { left.setAside count with backend := leftBackend }
          { right.setAside count with backend := rightBackend } := by
  obtain ⟨named, here⟩ := alike.alikeAt seen writable
  rcases here.insertNew named nonempty distinct with
    refused | ⟨leftBackend, rightBackend, leftStored, rightStored, hereAfter⟩
  · exact .inl refused
  · refine .inr ⟨leftBackend, rightBackend, leftStored, rightStored, fun count => ?_⟩
    have rightWritable := (alike.writableAddress_eq database collection).symm.trans writable
    exact alike.after_changes writable (.inserted count writable nonempty distinct leftStored)
      (.inserted count rightWritable nonempty distinct rightStored)
      (alike.setAside count).ids hereAfter

/-- An insertion into a visible collection is answered alike and leaves the stores alike. -/
theorem insert (given : Option String) (body : Json) :
    (left.insert database collection given body).1 =
        (right.insert database collection given body).1 ∧
      AlikeOn visible (left.insert database collection given body).2
        (right.insert database collection given body).2 := by
  have samePrepared : left.prepareInsert database collection given body =
      right.prepareInsert database collection given body := by
    rw [prepareInsert, prepareInsert, alike.writableAddress_eq, alike.ids]
  unfold DocumentStore.insert
  rw [← samePrepared]
  cases prepared : left.prepareInsert database collection given body with
  | error error => exact ⟨rfl, alike.setAside 1⟩
  | ok item =>
    obtain ⟨space, id, document⟩ := item
    obtain ⟨writable, -⟩ := left.prepareInsert_ok database collection prepared
    dsimp only
    rw [← alike.encode_eq]
    rcases alike.insertNew seen writable (List.cons_ne_nil (id, left.compression.encode document) [])
      (by simp) with ⟨error, leftRefused, rightRefused⟩ |
        ⟨leftBackend, rightBackend, leftStored, rightStored, alikeAfter⟩
    · rw [leftRefused, rightRefused]
      exact ⟨rfl, alike.setAside 1⟩
    · rw [leftStored, rightStored]
      exact ⟨rfl, alikeAfter 1⟩

/-- A batch for a visible collection is answered alike and leaves the stores alike. -/
theorem insertMany (bodies : List Json) :
    (left.insertMany database collection bodies).1 =
        (right.insertMany database collection bodies).1 ∧
      AlikeOn visible (left.insertMany database collection bodies).2
        (right.insertMany database collection bodies).2 := by
  have sameItems : left.prepareItems collection 0 [] bodies =
      right.prepareItems collection 0 [] bodies := by
    have leftJoined := prepareItems_eq left collection bodies 0 [] [] (by simp)
    have rightJoined := prepareItems_eq right collection bodies 0 [] [] (by simp)
    have same := leftJoined.symm.trans (alike.ids ▸ rightJoined)
    revert same
    cases left.prepareItems collection 0 [] bodies <;>
      cases right.prepareItems collection 0 [] bodies <;> simp [Except.map]
  unfold DocumentStore.insertMany
  rw [← alike.writableAddress_eq, ← sameItems]
  dsimp only
  split
  · exact ⟨rfl, alike.setAside bodies.length⟩
  · exact ⟨rfl, alike.setAside bodies.length⟩
  · rename_i space item items prepared
    obtain ⟨writable, distinct⟩ := left.preparedMany_ok database collection prepared
    have keysDistinct : ((left.compression.records (item :: items)).map Prod.fst).Nodup :=
      (left.compression.keys_records (item :: items)).symm ▸ distinct
    rw [← alike.encode_eq]
    have nonempty : (item :: items).map (fun item => (item.1, left.compression.encode item.2)) ≠ [] :=
      List.cons_ne_nil _ _
    rcases alike.insertNew seen writable nonempty keysDistinct with
      ⟨error, leftRefused, rightRefused⟩ |
        ⟨leftBackend, rightBackend, leftStored, rightStored, alikeAfter⟩
    · rw [leftRefused, rightRefused]
      exact ⟨rfl, alike.setAside bodies.length⟩
    · rw [leftStored, rightStored]
      exact ⟨rfl, alikeAfter bodies.length⟩

/-- A replacement in a visible collection is answered alike and leaves the stores alike. -/
theorem replace (id : String) (body : Json) :
    (left.replace database collection id body).1 = (right.replace database collection id body).1 ∧
      AlikeOn visible (left.replace database collection id body).2
        (right.replace database collection id body).2 := by
  unfold DocumentStore.replace
  rw [← alike.writableAddress_eq]
  dsimp only
  split
  · exact ⟨rfl, alike⟩
  · rename_i space document prepared
    obtain ⟨writable, -⟩ := left.preparedReplacement_ok database collection prepared
    have rightWritable := (alike.writableAddress_eq database collection).symm.trans writable
    obtain ⟨named, here⟩ := alike.alikeAt seen writable
    rw [← alike.encode_eq]
    rcases here.replace? named id (left.compression.encode document) with
      ⟨leftAbsent, rightAbsent⟩ |
        ⟨leftBackend, rightBackend, leftReplaced, rightReplaced, hereAfter⟩
    · rw [leftAbsent, rightAbsent]
      exact ⟨rfl, alike⟩
    · rw [leftReplaced, rightReplaced]
      exact ⟨rfl, alike.after_changes writable (.replaced writable leftReplaced)
        (.replaced rightWritable rightReplaced) alike.ids hereAfter⟩

/-- A deletion from a visible collection is answered alike and leaves the stores alike. -/
theorem delete (id : String) :
    (left.delete database collection id).1 = (right.delete database collection id).1 ∧
      AlikeOn visible (left.delete database collection id).2
        (right.delete database collection id).2 := by
  unfold DocumentStore.delete
  rw [← alike.writableAddress_eq]
  cases writable : left.writableAddress database collection with
  | error error => exact ⟨rfl, alike⟩
  | ok space =>
    have rightWritable := (alike.writableAddress_eq database collection).symm.trans writable
    obtain ⟨named, here⟩ := alike.alikeAt seen writable
    obtain ⟨sameAnswer, hereAfter⟩ := here.delete named id
    exact ⟨congrArg Except.ok sameAnswer, alike.after_changes writable (.deleted id writable)
      (.deleted id rightWritable) alike.ids hereAfter⟩

/-- The removal of a visible collection is answered alike and leaves the stores alike. -/
theorem dropCollection :
    (left.dropCollection database collection).1 = (right.dropCollection database collection).1 ∧
      AlikeOn visible (left.dropCollection database collection).2
        (right.dropCollection database collection).2 := by
  unfold DocumentStore.dropCollection
  rw [← alike.writableAddress_eq]
  cases writable : left.writableAddress database collection with
  | error error => exact ⟨rfl, alike⟩
  | ok space =>
    have rightWritable := (alike.writableAddress_eq database collection).symm.trans writable
    obtain ⟨named, here⟩ := alike.alikeAt seen writable
    obtain ⟨sameAnswer, hereAfter⟩ := here.drop named
    exact ⟨congrArg Except.ok sameAnswer, alike.after_changes writable (.dropped writable)
      (.dropped rightWritable) alike.ids hereAfter⟩

end AlikeOn

end DocumentGateway.DocumentStore

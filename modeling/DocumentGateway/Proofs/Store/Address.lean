import DocumentGateway.Proofs.Except
import DocumentGateway.Proofs.Store.RecordKey
import DocumentGateway.Store.DocumentStore

/-!
# Addresses of collections

The address of a collection is told apart at its first slash, because names hold no
slash. Names hold no NUL either, so addresses are proper namespaces of a backend.
-/
namespace DocumentGateway

open FlatTable (NulFree)

/-- A name that a database or a collection may have. -/
structure ValidName (name : String) : Prop where
  nonempty : name.isEmpty = false
  permitted : hasForbiddenPart name = false

instance (name : String) : Decidable (ValidName name) :=
  decidable_of_iff (name.isEmpty = false ∧ hasForbiddenPart name = false)
    ⟨fun both => ⟨both.1, both.2⟩, fun valid => ⟨valid.nonempty, valid.permitted⟩⟩

/-- A name is accepted exactly if it is valid. -/
theorem validateName_ok_iff (kind name : String) :
    validateName kind name = .ok () ↔ ValidName name := by
  unfold validateName
  split
  · rename_i bare
    simp only [reduceCtorEq, false_iff]
    exact fun valid => by simp [valid.nonempty] at bare
  · rename_i nonempty
    split
    · rename_i forbidden
      simp only [reduceCtorEq, false_iff]
      exact fun valid => by simp [valid.permitted] at forbidden
    · rename_i permitted
      simp only [true_iff]
      exact ⟨by simpa using nonempty, by simpa using permitted⟩

namespace ValidName

variable {name : String}

/-- A valid name has no slash, so it ends where an address says it does. -/
theorem slashFree (valid : ValidName name) : '/' ∉ name.toList := by
  have permitted := valid.permitted
  simp only [hasForbiddenPart, Bool.or_eq_false_iff] at permitted
  simpa using permitted.1.1

/-- A valid name has no zero character, which separates the parts of record keys. -/
theorem nulFree (valid : ValidName name) : NulFree name := by
  have permitted := valid.permitted
  simp only [hasForbiddenPart, Bool.or_eq_false_iff] at permitted
  simpa [NulFree] using permitted.1.2

end ValidName

/-- The characters of an address: the two names with a slash between them. -/
@[simp] theorem toList_address (database collection : String) :
    (address database collection).toList = database.toList ++ '/' :: collection.toList := by
  simp [address]

/-- Both names of a collection are accepted exactly if they are valid. -/
theorem checkedAddress_ok_iff (database collection space : String) :
    checkedAddress database collection = .ok space ↔
      ValidName database ∧ ValidName collection ∧ space = address database collection := by
  simp only [checkedAddress, bind_eq_ok_iff, Except.ok.injEq]
  constructor
  · rintro ⟨_, acceptedDatabase, _, acceptedCollection, rfl⟩
    exact ⟨(validateName_ok_iff _ _).mp acceptedDatabase,
      (validateName_ok_iff _ _).mp acceptedCollection, rfl⟩
  · rintro ⟨validDatabase, validCollection, rfl⟩
    exact ⟨(), (validateName_ok_iff _ _).mpr validDatabase, (),
      (validateName_ok_iff _ _).mpr validCollection, rfl⟩

/-- Only collections with valid names that are not immutable may be written to. -/
theorem writableAddress_ok_iff (store : DocumentStore) (database collection space : String) :
    store.writableAddress database collection = .ok space ↔
      checkedAddress database collection = .ok space ∧
        store.immutable.contains database collection = false := by
  unfold DocumentStore.writableAddress ImmutableSet.check
  rw [bind_eq_ok_iff]
  cases store.immutable.contains database collection <;> simp [bind_eq_ok_iff]

/-- The address of a collection is a proper namespace. -/
theorem nulFree_address {database collection : String} (validDatabase : ValidName database)
    (validCollection : ValidName collection) : NulFree (address database collection) := by
  have left := validDatabase.nulFree
  have right := validCollection.nulFree
  simp only [NulFree, toList_address, List.mem_append, List.mem_cons, not_or] at left right ⊢
  exact ⟨left, by decide, right⟩

/-- An address of checked names has no zero character. -/
theorem nulFree_of_checkedAddress {database collection space : String}
    (checked : checkedAddress database collection = .ok space) : NulFree space := by
  obtain ⟨validDatabase, validCollection, rfl⟩ := (checkedAddress_ok_iff _ _ _).mp checked
  exact nulFree_address validDatabase validCollection

/-- An address that may be written to has no zero character. -/
theorem nulFree_of_writableAddress {store : DocumentStore} {database collection space : String}
    (writable : store.writableAddress database collection = .ok space) : NulFree space :=
  nulFree_of_checkedAddress ((writableAddress_ok_iff _ _ _ _).mp writable).1

/-- Both names are read off an address. -/
theorem address_inj {database collection otherDatabase otherCollection : String}
    (valid : ValidName database) (otherValid : ValidName otherDatabase) :
    address database collection = address otherDatabase otherCollection ↔
      database = otherDatabase ∧ collection = otherCollection := by
  constructor
  · intro same
    have lists : database.toList ++ '/' :: collection.toList =
        otherDatabase.toList ++ '/' :: otherCollection.toList := by
      rw [← toList_address, ← toList_address, same]
    have cuts := congrArg (Text.cutAt? ['/']) lists
    rw [Text.cutAt?_singleton_append _ valid.slashFree,
      Text.cutAt?_singleton_append _ otherValid.slashFree] at cuts
    obtain ⟨databases, collections⟩ := Prod.mk.inj (Option.some.inj cuts)
    exact ⟨String.toList_injective databases, String.toList_injective collections⟩
  · rintro ⟨rfl, rfl⟩
    rfl

end DocumentGateway

import DocumentGateway.Proofs.Store.Presence

/-!
# Backends that are alike under one namespace

Two backends are alike under a namespace if the same is read there under every key and
both or neither of them have it. What is read of a stored value is a parameter, so
backends can be alike although they store different texts. Every operation on the
namespace is answered alike by such backends and leaves them alike.
-/
namespace DocumentGateway

open FlatTable (NulFree)
open SortedMap (lookup)

variable {α β : Type}

/-! ## Backends of other values -/

/-- The table whose values are the images of those of a table. -/
def NestedTable.map (f : α → β) (table : NestedTable α) : NestedTable β :=
  ⟨table.namespaces.map (SortedMap.map f)⟩

/-- The records of a namespace in a mapped table are the images of its records. -/
theorem NestedTable.records_map (f : α → β) (table : NestedTable α) (space : String) :
    (table.map f).records space = (table.records space).map f := by
  simp only [records, NestedTable.map, SortedMap.get?_map]
  cases table.namespaces.get? space <;> rfl

/-- The table whose values are the images of those of a table. -/
def FlatTable.map (f : α → β) (table : FlatTable α) : FlatTable β :=
  ⟨table.records.map f⟩

/-- The stretch of a namespace in a mapped table is the image of its stretch. -/
theorem FlatTable.within_map (f : α → β) (table : FlatTable α) (space : String) :
    (table.map f).within space = (table.within space).map f := by
  refine SortedMap.ext_get? fun key => ?_
  simp only [within, FlatTable.map, SortedMap.get?_filterKeys, SortedMap.get?_map]
  split <;> rfl

namespace Backend

/-- The backend whose values are the images of those of a backend. -/
def map (f : α → β) : Backend α → Backend β
  | memory table => memory (table.map f)
  | file table => file (table.map f)

/-- What is found in a mapped backend is the image of what was found. -/
theorem get?_map (f : α → β) (backend : Backend α) (space key : String) :
    (backend.map f).get? space key = (backend.get? space key).map f := by
  cases backend with
  | memory table =>
    change ((table.map f).records space).get? key = _
    rw [table.records_map, SortedMap.get?_map]
    rfl
  | file table => exact table.records.get?_map f (FlatTable.recordKey space key)

/-- The values of a namespace in a mapped backend are the images of its values, in the same order.
-/
theorem values_map (f : α → β) (backend : Backend α) (space : String) :
    (backend.map f).values space = (backend.values space).map f := by
  cases backend with
  | memory table =>
    change ((table.map f).records space).values = _
    rw [table.records_map, SortedMap.values_map]
    rfl
  | file table =>
    change ((table.map f).within space).values = _
    rw [table.within_map, SortedMap.values_map]
    rfl

/-! ## Alike under one namespace -/

/-- The same is read in both backends under every key of a namespace, and both or neither
of them have it. -/
structure AlikeAt (read : α → β) (left right : Backend α) (space : String) : Prop where
  found : ∀ key, (left.get? space key).map read = (right.get? space key).map read
  present : left.contains space = true ↔ right.contains space = true

namespace AlikeAt

variable {read : α → β} {left right : Backend α} {space : String}

/-- A key that is taken in one backend is taken in the other one. -/
theorem isSome_eq (alike : AlikeAt read left right space) (key : String) :
    (left.get? space key).isSome = (right.get? space key).isSome := by
  have same := congrArg Option.isSome (alike.found key)
  simpa using same

/-- The same values are read in the same order. -/
theorem values_eq (alike : AlikeAt read left right space) :
    (left.values space).map read = (right.values space).map read := by
  rw [← values_map, ← values_map]
  apply values_eq_of_found
  intro key
  rw [get?_map, get?_map, alike.found]

/-- An insertion with distinct keys is refused alike or leaves the backends alike. -/
theorem insertNew (alike : AlikeAt read left right space) (named : NulFree space)
    {entries : List (String × α)} (nonempty : entries ≠ [])
    (distinct : (entries.map Prod.fst).Nodup) :
    (∃ error, left.insertNew space entries = .error error ∧
        right.insertNew space entries = .error error) ∨
      ∃ leftAfter rightAfter, left.insertNew space entries = .ok leftAfter ∧
        right.insertNew space entries = .ok rightAfter ∧
        AlikeAt read leftAfter rightAfter space := by
  have sameSearch : left.firstTaken? space entries = right.firstTaken? space entries := by
    simp only [firstTaken?, alike.isSome_eq]
  cases search : left.firstTaken? space entries with
  | some entry =>
    have leftDistinct := distinct.sublist (left.untakenKeys_sublist space entries)
    have rightDistinct := distinct.sublist (right.untakenKeys_sublist space entries)
    exact .inl ⟨takenId space entry.1, insertNew_taken named leftDistinct search,
      insertNew_taken named rightDistinct (sameSearch ▸ search)⟩
  | none =>
    obtain ⟨leftAfter, leftStored, leftContents, -⟩ := insertNew_free named distinct search
    obtain ⟨rightAfter, rightStored, rightContents, -⟩ :=
      insertNew_free named distinct (sameSearch ▸ search)
    refine .inr ⟨leftAfter, rightAfter, leftStored, rightStored, fun key => ?_, ?_⟩
    · rw [leftContents space key named, rightContents space key named, if_pos rfl, if_pos rfl]
      cases lookup key entries with
      | some value => rfl
      | none => exact alike.found key
    · rw [contains_insertNew named named nonempty leftStored,
        contains_insertNew named named nonempty rightStored, alike.present]

/-- An overwriting fails alike or leaves the backends alike. -/
theorem replace? (alike : AlikeAt read left right space) (named : NulFree space) (key : String)
    (value : α) :
    (left.replace? space key value = none ∧ right.replace? space key value = none) ∨
      ∃ leftAfter rightAfter, left.replace? space key value = some leftAfter ∧
        right.replace? space key value = some rightAfter ∧
        AlikeAt read leftAfter rightAfter space := by
  have samePresence := alike.isSome_eq key
  cases leftFound : left.get? space key with
  | none =>
    have rightFound : right.get? space key = none := by simpa [leftFound] using samePresence.symm
    exact .inl ⟨replace?_absent value leftFound, replace?_absent value rightFound⟩
  | some old =>
    obtain ⟨rightOld, rightFound⟩ : ∃ rightOld, right.get? space key = some rightOld := by
      rw [← Option.isSome_iff_exists, ← samePresence, leftFound]
      rfl
    obtain ⟨leftAfter, leftReplaced, leftContents, -⟩ := replace?_present value named leftFound
    obtain ⟨rightAfter, rightReplaced, rightContents, -⟩ := replace?_present value named rightFound
    refine .inr ⟨leftAfter, rightAfter, leftReplaced, rightReplaced, fun otherKey => ?_, ?_⟩
    · rw [leftContents space otherKey named, rightContents space otherKey named]
      split
      · rfl
      · exact alike.found otherKey
    · rw [contains_replace? named named leftReplaced, contains_replace? named named rightReplaced,
        alike.present]

/-- A deletion is answered alike and leaves the backends alike. -/
theorem delete (alike : AlikeAt read left right space) (named : NulFree space) (key : String) :
    (left.delete space key).1 = (right.delete space key).1 ∧
      AlikeAt read (left.delete space key).2 (right.delete space key).2 space := by
  refine ⟨?_, fun otherKey => ?_, ?_⟩
  · rw [delete_fst, delete_fst, alike.isSome_eq]
  · rw [get?_delete left key otherKey named named, get?_delete right key otherKey named named]
    split
    · rfl
    · exact alike.found otherKey
  · rw [contains_delete left key named named, contains_delete right key named named, alike.present]
    simp only [← Option.isSome_iff_exists, exists_and_left, alike.isSome_eq]

/-- A dropping is answered alike and leaves the backends alike. -/
theorem drop (alike : AlikeAt read left right space) (named : NulFree space) :
    (left.drop space).1 = (right.drop space).1 ∧
      AlikeAt read (left.drop space).2 (right.drop space).2 space := by
  refine ⟨?_, fun key => ?_, ?_⟩
  · rw [drop_fst, drop_fst, Bool.eq_iff_iff, alike.present]
  · rw [get?_drop left key named named, get?_drop right key named named, if_pos rfl, if_pos rfl]
  · rw [contains_drop left named named, contains_drop right named named, alike.present]

end AlikeAt

end Backend

end DocumentGateway

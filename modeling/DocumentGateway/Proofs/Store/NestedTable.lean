import DocumentGateway.Proofs.SortedMap
import DocumentGateway.Proofs.Store.RecordKey
import DocumentGateway.Store.NestedTable

/-!
# Laws of the table of tables

Every operation is described by what it does to the values found under namespaces and
keys. A table is sound if every namespace in it has a name without NUL and holds a key.
The operations keep tables sound, with one exception: putting no entries into a
namespace that is not there makes an empty one.
-/
namespace DocumentGateway.NestedTable

open FlatTable (NulFree)
open SortedMap (lookup insertAll)

variable {α : Type}

/-- Every namespace has a proper name and holds at least one key. -/
def Sound (table : NestedTable α) : Prop :=
  ∀ space records, table.namespaces.get? space = some records →
    NulFree space ∧ ∃ key value, records.get? key = some value

/-- An empty table has no namespace that could be improper. -/
theorem sound_empty : (empty : NestedTable α).Sound := by
  intro space records found
  simp [empty] at found

/-- The records of a namespace answer what the table answers. -/
theorem get?_records (table : NestedTable α) (space key : String) :
    (table.records space).get? key = table.get? space key := rfl

/-- Sound tables in which the same is found under all proper namespaces are the same: neither has
a namespace that the other lacks, because something is found under each. -/
theorem ext_found {left right : NestedTable α} (leftSound : left.Sound) (rightSound : right.Sound)
    (same : ∀ space key, NulFree space → left.get? space key = right.get? space key) :
    left = right := by
  have absent : ∀ {one other : NestedTable α}, one.Sound →
      (∀ space key, NulFree space → one.get? space key = other.get? space key) → ∀ {space},
      other.namespaces.get? space = none → one.namespaces.get? space = none := by
    intro one other sound found space missing
    refine Option.eq_none_iff_forall_ne_some.mpr fun records present => ?_
    obtain ⟨named, key, value, held⟩ := sound space records present
    have nothing := found space key named
    simp [get?, NestedTable.records, present, missing, held] at nothing
  refine congrArg mk (SortedMap.ext_get? fun space => ?_)
  cases leftPresent : left.namespaces.get? space with
  | none =>
    exact (absent rightSound (fun space key named => (same space key named).symm) leftPresent).symm
  | some leftRecords =>
    cases rightPresent : right.namespaces.get? space with
    | none =>
      rw [absent leftSound same rightPresent] at leftPresent
      cases leftPresent
    | some rightRecords =>
      refine congrArg some (SortedMap.ext_get? fun key => ?_)
      have found := same space key (leftSound space leftRecords leftPresent).1
      simpa [get?, NestedTable.records, leftPresent, rightPresent] using found

/-- A table with the records of one namespace exchanged. -/
def withRecords (table : NestedTable α) (space : String) (records : SortedMap α) : NestedTable α :=
  ⟨table.namespaces.insert space records⟩

/-- The records that a namespace is given are found in it, and all others are found as before. -/
theorem get?_withRecords (table : NestedTable α) (space other key : String)
    (records : SortedMap α) :
    (table.withRecords space records).get? other key =
      if space = other then records.get? key else table.get? other key := by
  by_cases same : space = other <;> simp [withRecords, get?, NestedTable.records, same]

/-- Exchanging the records of a properly named namespace for some that are not empty
keeps a table sound. -/
theorem sound_withRecords {table : NestedTable α} {space : String} {records : SortedMap α}
    (sound : table.Sound) (named : NulFree space)
    (inhabited : ∃ key value, records.get? key = some value) :
    (table.withRecords space records).Sound := by
  intro other found present
  by_cases same : space = other
  · subst same
    obtain rfl : records = found := by simpa [withRecords] using present
    exact ⟨named, inhabited⟩
  · exact sound other found (by simpa [withRecords, same] using present)

/-- A table with one namespace removed. -/
def withoutSpace (table : NestedTable α) (space : String) : NestedTable α :=
  ⟨table.namespaces.erase space⟩

/-- Nothing is found in a removed namespace, and all else is found as before. -/
theorem get?_withoutSpace (table : NestedTable α) (space other key : String) :
    (table.withoutSpace space).get? other key =
      if space = other then none else table.get? other key := by
  by_cases same : space = other <;> simp [withoutSpace, get?, NestedTable.records, same]

/-- The removal of a namespace keeps a table sound. -/
theorem sound_withoutSpace {table : NestedTable α} (space : String) (sound : table.Sound) :
    (table.withoutSpace space).Sound := by
  intro other found present
  by_cases same : space = other
  · simp [withoutSpace, same] at present
  · exact sound other found (by simpa [withoutSpace, same] using present)

/-! ## Insertion -/

/-- An insertion is refused for the first of its keys that is taken. Otherwise it
stores its entries one after another. -/
theorem insertNew_eq (table : NestedTable α) (space : String) (entries : List (String × α)) :
    table.insertNew space entries =
      match entries.find? fun entry => (table.get? space entry.1).isSome with
      | some entry => .error (takenId space entry.1)
      | none => .ok (table.withRecords space (insertAll entries (table.records space))) := rfl

/-- After entries with distinct keys are inserted, they are found before all others. -/
theorem get?_inserted (table : NestedTable α) (space other key : String)
    {entries : List (String × α)} (distinct : (entries.map Prod.fst).Nodup) :
    (table.withRecords space (insertAll entries (table.records space))).get? other key =
      if space = other then (lookup key entries).or (table.get? other key)
      else table.get? other key := by
  rw [get?_withRecords]
  by_cases same : space = other
  · subst same
    simp [SortedMap.get?_insertAll distinct, get?_records]
  · simp [same]

/-- An insertion keeps a table sound, unless it puts nothing into a namespace that holds
nothing. -/
theorem sound_inserted {table : NestedTable α} {space : String} {entries : List (String × α)}
    (sound : table.Sound) (named : NulFree space) (distinct : (entries.map Prod.fst).Nodup)
    (inhabited : entries ≠ [] ∨ ∃ key value, table.get? space key = some value) :
    (table.withRecords space (insertAll entries (table.records space))).Sound := by
  refine sound_withRecords sound named ?_
  rcases inhabited with nonempty | ⟨key, value, found⟩
  · cases entries with
    | nil => exact absurd rfl nonempty
    | cons entry rest =>
      refine ⟨entry.1, entry.2, ?_⟩
      rw [SortedMap.get?_insertAll distinct]
      simp [lookup]
  · rw [← get?_records] at found
    cases inEntries : lookup key entries with
    | none => exact ⟨key, value, by simp [SortedMap.get?_insertAll distinct, inEntries, found]⟩
    | some stored => exact ⟨key, stored, by simp [SortedMap.get?_insertAll distinct, inEntries]⟩

/-! ## Replacement and removal -/

/-- A record is replaced exactly if it is there. -/
theorem replace?_eq (table : NestedTable α) (space key : String) (value : α) :
    table.replace? space key value =
      if (table.get? space key).isSome then
        some (table.withRecords space ((table.records space).insert key value))
      else none := rfl

/-- The new value is found under its namespace and key, and all others are found as before. -/
theorem get?_replaced (table : NestedTable α) (space key other otherKey : String) (value : α) :
    (table.withRecords space ((table.records space).insert key value)).get? other otherKey =
      if space = other ∧ key = otherKey then some value else table.get? other otherKey := by
  rw [get?_withRecords]
  by_cases same : space = other
  · subst same
    simp [get?_records]
  · simp [same]

/-- A table stays sound when a value is stored in a namespace with a proper name. -/
theorem sound_replaced {table : NestedTable α} {space : String} (key : String) (value : α)
    (sound : table.Sound) (named : NulFree space) :
    (table.withRecords space ((table.records space).insert key value)).Sound :=
  sound_withRecords sound named ⟨key, value, by simp⟩

/-- A deletion says whether the key was there. -/
theorem delete_fst (table : NestedTable α) (space key : String) :
    (table.delete space key).1 = (table.get? space key).isSome := by
  cases found : table.namespaces.get? space with
  | none => simp [delete, get?, NestedTable.records, found]
  | some records =>
    simp [delete, get?, NestedTable.records, found, SortedMap.contains]

/-- A deletion exchanges the records of its namespace for the remaining ones, or removes
the namespace if none remain. -/
theorem delete_snd (table : NestedTable α) (space key : String) :
    (table.delete space key).2 =
      match table.namespaces.get? space with
      | none => table
      | some records =>
        if (records.erase key).isEmpty then table.withoutSpace space
        else table.withRecords space (records.erase key) := by
  cases found : table.namespaces.get? space with
  | none => simp [delete, found]
  | some records =>
    by_cases bare : (records.erase key).isEmpty <;>
      simp [delete, found, bare, withoutSpace, withRecords]

/-- A deletion forgets its own key only. -/
theorem get?_delete (table : NestedTable α) (space key other otherKey : String) :
    (table.delete space key).2.get? other otherKey =
      if space = other ∧ key = otherKey then none else table.get? other otherKey := by
  rw [delete_snd]
  cases found : table.namespaces.get? space with
  | none =>
    by_cases same : space = other
    · subst same
      simp [get?, NestedTable.records, found]
    · simp [same]
  | some records =>
    have kept : ∀ key, table.get? space key = records.get? key := fun key => by
      simp [get?, NestedTable.records, found]
    by_cases bare : (records.erase key).isEmpty
    · have nothing := (SortedMap.isEmpty_iff _).mp bare otherKey
      simp only [bare, if_true, get?_withoutSpace]
      by_cases same : space = other
      · subst same
        by_cases ownKey : key = otherKey
        · simp [ownKey]
        · simpa [ownKey, kept] using nothing.symm
      · simp [same]
    · simp only [bare, Bool.false_eq_true, if_false, get?_withRecords]
      by_cases same : space = other
      · subst same
        simp [kept]
      · simp [same]

/-- A deletion keeps a table sound: a namespace goes with its last record. -/
theorem sound_delete {table : NestedTable α} (space key : String) (sound : table.Sound) :
    (table.delete space key).2.Sound := by
  rw [delete_snd]
  cases found : table.namespaces.get? space with
  | none => exact sound
  | some records =>
    by_cases bare : (records.erase key).isEmpty
    · simpa [bare] using sound_withoutSpace space sound
    · have inhabited : ∃ key' value, (records.erase key).get? key' = some value := by
        by_contra none'
        refine bare ((SortedMap.isEmpty_iff _).mpr fun key' => ?_)
        exact Option.eq_none_iff_forall_ne_some.mpr fun value present => none' ⟨key', value, present⟩
      simpa [bare] using sound_withRecords sound (sound space records found).1 inhabited

/-- Deleting a key that is not there leaves a sound table as it is: the namespace of the
key, if there is one, holds other keys and stays. -/
theorem delete_absent {table : NestedTable α} {space key : String} (sound : table.Sound)
    (absent : table.get? space key = none) : (table.delete space key).2 = table := by
  rw [delete_snd]
  cases found : table.namespaces.get? space with
  | none => rfl
  | some records =>
    have absentHere : records.get? key = none := by
      simpa [get?, NestedTable.records, found] using absent
    obtain ⟨-, other, value, present⟩ := sound space records found
    have inhabited : records.isEmpty ≠ true := fun bare => by
      simp [(SortedMap.isEmpty_iff records).mp bare other] at present
    simp [SortedMap.erase_absent absentHere, inhabited, withRecords,
      SortedMap.insert_present found]

/-! ## Namespaces -/

/-- In a sound table the namespaces are those under which something is found. -/
theorem mem_spaces_iff {table : NestedTable α} (sound : table.Sound) (space : String) :
    space ∈ table.spaces ↔ NulFree space ∧ ∃ key value, table.get? space key = some value := by
  rw [spaces, SortedMap.mem_keys_iff]
  constructor
  · rintro ⟨records, present⟩
    obtain ⟨named, key, value, found⟩ := sound space records present
    exact ⟨named, key, value, by simpa [get?, NestedTable.records, present] using found⟩
  · rintro ⟨_, key, value, found⟩
    cases present : table.namespaces.get? space with
    | none => simp [get?, NestedTable.records, present] at found
    | some records => exact ⟨records, rfl⟩

/-- A sound table contains a namespace exactly if something is found in it. -/
theorem contains_iff {table : NestedTable α} (sound : table.Sound) (space : String) :
    table.contains space = true ↔ ∃ key value, table.get? space key = some value := by
  have member : table.contains space = true ↔ space ∈ table.spaces := by
    rw [contains, SortedMap.contains_iff, spaces, SortedMap.mem_keys_iff]
  rw [member, mem_spaces_iff sound]
  constructor
  · exact And.right
  · rintro ⟨key, value, found⟩
    refine ⟨?_, key, value, found⟩
    cases present : table.namespaces.get? space with
    | none => simp [get?, NestedTable.records, present] at found
    | some records => exact (sound space records present).1

end DocumentGateway.NestedTable

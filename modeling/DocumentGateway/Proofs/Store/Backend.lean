import DocumentGateway.Proofs.Except
import DocumentGateway.Proofs.Store.FlatTable
import DocumentGateway.Proofs.Store.NestedTable
import DocumentGateway.Store.Backend
import Mathlib.Data.List.TakeWhile

/-!
# Laws of storage backends

What holds of both kinds of table is said here once: every operation is described by
what it does to the values found under namespaces and keys. Insertions are described for
entries with distinct keys, because on others the two kinds of table differ.
-/
namespace DocumentGateway.Backend

open FlatTable (NulFree)
open SortedMap (lookup)

variable {α : Type}

/-- Every namespace has a proper name and holds at least one key. -/
def Sound : Backend α → Prop
  | memory table => table.Sound
  | file table => table.Sound

/-- Something is found under a namespace. -/
def Inhabited (backend : Backend α) (space : String) : Prop :=
  ∃ key value, backend.get? space key = some value

/-- Refusals of different identifiers at one address are different. -/
theorem takenId_inj {space left right : String} :
    takenId space left = takenId space right ↔ left = right := by
  unfold takenId
  split <;> simp

/-- The first entry of a batch whose key is taken. -/
def firstTaken? (backend : Backend α) (space : String) (entries : List (String × α)) :
    Option (String × α) :=
  entries.find? fun entry => (backend.get? space entry.1).isSome

/-- The keys of a batch before the first one that is taken. -/
def untakenKeys (backend : Backend α) (space : String) (entries : List (String × α)) :
    List String :=
  (entries.takeWhile fun entry => (backend.get? space entry.1).isNone).map Prod.fst

/-- The keys before the first one that is taken are keys of the batch, in its order. -/
theorem untakenKeys_sublist (backend : Backend α) (space : String) (entries : List (String × α)) :
    (backend.untakenKeys space entries).Sublist (entries.map Prod.fst) :=
  (List.takeWhile_sublist _).map _

/-- If no key of a batch is taken, all of them come before the first taken one. -/
theorem untakenKeys_eq {backend : Backend α} {space : String} {entries : List (String × α)}
    (free : backend.firstTaken? space entries = none) :
    backend.untakenKeys space entries = entries.map Prod.fst := by
  have allFree : ∀ entry ∈ entries, (backend.get? space entry.1).isNone = true := by
    simpa [firstTaken?, List.find?_eq_none] using free
  rw [untakenKeys, List.takeWhile_eq_self_iff.mpr allFree]

/-- An insertion is refused for the first of its keys that is taken, if no key comes twice
before it. -/
theorem insertNew_taken {backend : Backend α} {space : String} {entries : List (String × α)}
    {entry : String × α} (named : NulFree space)
    (distinct : (backend.untakenKeys space entries).Nodup)
    (taken : backend.firstTaken? space entries = some entry) :
    backend.insertNew space entries = .error (takenId space entry.1) := by
  cases backend with
  | memory table =>
    have search : (entries.find? fun entry => (table.get? space entry.1).isSome) = some entry :=
      taken
    simp [insertNew, table.insertNew_eq, search, Except.map]
  | file table =>
    have search : (entries.find? fun entry => (table.get? space entry.1).isSome) = some entry :=
      taken
    simp [insertNew, table.insertNew_eq named distinct, search, Except.map]

/-- An insertion with no taken key stores all its entries and changes nothing else. It
keeps the backend sound unless it puts nothing where nothing is. -/
theorem insertNew_free {backend : Backend α} {space : String} {entries : List (String × α)}
    (named : NulFree space) (distinct : (entries.map Prod.fst).Nodup)
    (free : backend.firstTaken? space entries = none) :
    ∃ after, backend.insertNew space entries = .ok after ∧
      (∀ other key, NulFree other → after.get? other key =
        if space = other then (lookup key entries).or (backend.get? other key)
        else backend.get? other key) ∧
      (backend.Sound → entries ≠ [] ∨ backend.Inhabited space → after.Sound) := by
  cases backend with
  | memory table =>
    have search : (entries.find? fun entry => (table.get? space entry.1).isSome) = none := free
    refine ⟨memory (table.withRecords space (SortedMap.insertAll entries (table.records space))),
      ?_, ?_, ?_⟩
    · simp [insertNew, table.insertNew_eq, search, Except.map]
    · exact fun other key _ => table.get?_inserted space other key distinct
    · exact fun sound inhabited => NestedTable.sound_inserted sound named distinct inhabited
  | file table =>
    have search : (entries.find? fun entry => (table.get? space entry.1).isSome) = none := free
    have untaken : (table.untakenKeys space entries).Nodup :=
      distinct.sublist ((file table).untakenKeys_sublist space entries)
    refine ⟨file (table.withRecords space entries), ?_, ?_, ?_⟩
    · simp [insertNew, table.insertNew_eq named untaken, search, Except.map]
    · exact fun other key otherNamed => table.get?_withRecords key named otherNamed distinct
    · exact fun sound _ => FlatTable.sound_withRecords entries sound named

/-- An insertion that is done found none of its keys taken, and stores its entries only. -/
theorem insertNew_ok {backend after : Backend α} {space : String} {entries : List (String × α)}
    (named : NulFree space) (distinct : (entries.map Prod.fst).Nodup)
    (stored : backend.insertNew space entries = .ok after) :
    (∀ entry ∈ entries, backend.get? space entry.1 = none) ∧
      ∀ other key, NulFree other → after.get? other key =
        if space = other then (lookup key entries).or (backend.get? other key)
        else backend.get? other key := by
  cases search : backend.firstTaken? space entries with
  | some entry =>
    have untaken := distinct.sublist (backend.untakenKeys_sublist space entries)
    rw [insertNew_taken named untaken search] at stored
    cases stored
  | none =>
    obtain ⟨filled, filledStored, contents, -⟩ := insertNew_free named distinct search
    obtain rfl : after = filled := Except.ok.inj (stored.symm.trans filledStored)
    exact ⟨by simpa [firstTaken?, List.find?_eq_none] using search, contents⟩

/-- An insertion of some entries that is done keeps a backend sound. -/
theorem sound_insertNew {backend after : Backend α} {space : String} {entries : List (String × α)}
    (named : NulFree space) (nonempty : entries ≠ []) (distinct : (entries.map Prod.fst).Nodup)
    (stored : backend.insertNew space entries = .ok after) (sound : backend.Sound) :
    after.Sound := by
  have search : backend.firstTaken? space entries = none := by
    simpa [firstTaken?, List.find?_eq_none] using (insertNew_ok named distinct stored).1
  obtain ⟨filled, filledStored, -, keptSound⟩ := insertNew_free named distinct search
  obtain rfl : after = filled := Except.ok.inj (stored.symm.trans filledStored)
  exact keptSound sound (.inl nonempty)

/-- The insertion of one entry is refused if its key is taken. -/
theorem insertNew_one_taken {backend : Backend α} {space key : String} {old : α} (value : α)
    (named : NulFree space) (taken : backend.get? space key = some old) :
    backend.insertNew space [(key, value)] = .error (takenId space key) := by
  have distinct := (List.nodup_singleton key).sublist
    (backend.untakenKeys_sublist space [(key, value)])
  have search : backend.firstTaken? space [(key, value)] = some (key, value) := by
    simp [firstTaken?, taken]
  exact insertNew_taken named distinct search

/-- The insertion of one entry stores it if its key is free. -/
theorem insertNew_one_free {backend : Backend α} {space key : String} (value : α)
    (named : NulFree space) (free : backend.get? space key = none) :
    ∃ after, backend.insertNew space [(key, value)] = .ok after ∧
      (∀ other otherKey, NulFree other → after.get? other otherKey =
        if space = other ∧ key = otherKey then some value else backend.get? other otherKey) ∧
      (backend.Sound → after.Sound) := by
  have search : backend.firstTaken? space [(key, value)] = none := by
    simp [firstTaken?, free]
  have distinct : ([(key, value)].map Prod.fst).Nodup := List.nodup_singleton key
  obtain ⟨after, stored, contents, keptSound⟩ := insertNew_free named distinct search
  refine ⟨after, stored, fun other otherKey otherNamed => ?_, fun sound => keptSound sound (by simp)⟩
  rw [contents other otherKey otherNamed]
  by_cases sameKey : key = otherKey <;> simp [lookup, sameKey]

/-- A key that is not there is not overwritten. -/
theorem replace?_absent {backend : Backend α} {space key : String} (value : α)
    (absent : backend.get? space key = none) : backend.replace? space key value = none := by
  cases backend with
  | memory table =>
    have nothing : table.get? space key = none := absent
    simp [replace?, table.replace?_eq, nothing]
  | file table =>
    have nothing : table.get? space key = none := absent
    simp [replace?, table.replace?_eq, nothing]

/-- Overwriting a key that is there changes the value under this key only. -/
theorem replace?_present {backend : Backend α} {space key : String} {old : α} (value : α)
    (named : NulFree space) (present : backend.get? space key = some old) :
    ∃ after, backend.replace? space key value = some after ∧
      (∀ other otherKey, NulFree other → after.get? other otherKey =
        if space = other ∧ key = otherKey then some value else backend.get? other otherKey) ∧
      (backend.Sound → after.Sound) := by
  cases backend with
  | memory table =>
    have found : table.get? space key = some old := present
    refine ⟨memory (table.withRecords space ((table.records space).insert key value)), ?_, ?_, ?_⟩
    · simp [replace?, table.replace?_eq, found]
    · exact fun other otherKey _ => table.get?_replaced space key other otherKey value
    · exact fun sound => NestedTable.sound_replaced key value sound named
  | file table =>
    have found : table.get? space key = some old := present
    refine ⟨file (table.withRecord space key value), ?_, ?_, ?_⟩
    · simp [replace?, table.replace?_eq, found]
    · exact fun other otherKey otherNamed =>
        table.get?_withRecord key otherKey value named otherNamed
    · exact fun sound => FlatTable.sound_withRecord key value sound named

/-- An overwriting that is done found a value, and changes it only. -/
theorem replace?_some {backend after : Backend α} {space key : String} {value : α}
    (named : NulFree space) (replaced : backend.replace? space key value = some after) :
    (backend.get? space key).isSome ∧
      ∀ other otherKey, NulFree other → after.get? other otherKey =
        if space = other ∧ key = otherKey then some value else backend.get? other otherKey := by
  cases found : backend.get? space key with
  | none =>
    rw [replace?_absent value found] at replaced
    cases replaced
  | some old =>
    obtain ⟨changed, changedReplaced, contents, -⟩ := replace?_present value named found
    obtain rfl : after = changed := Option.some.inj (replaced.symm.trans changedReplaced)
    exact ⟨rfl, contents⟩

/-- An overwriting that is done keeps a backend sound. -/
theorem sound_replace? {backend after : Backend α} {space key : String} {value : α}
    (named : NulFree space) (replaced : backend.replace? space key value = some after)
    (sound : backend.Sound) : after.Sound := by
  obtain ⟨old, present⟩ := Option.isSome_iff_exists.mp (replace?_some named replaced).1
  obtain ⟨changed, changedReplaced, -, keptSound⟩ := replace?_present value named present
  obtain rfl : after = changed := Option.some.inj (replaced.symm.trans changedReplaced)
  exact keptSound sound

/-- A deletion says whether the key was there. -/
theorem delete_fst (backend : Backend α) (space key : String) :
    (backend.delete space key).1 = (backend.get? space key).isSome := by
  cases backend with
  | memory table => exact table.delete_fst space key
  | file table => rfl

/-- A deletion forgets its own key only. -/
theorem get?_delete (backend : Backend α) {space other : String} (key otherKey : String)
    (named : NulFree space) (otherNamed : NulFree other) :
    (backend.delete space key).2.get? other otherKey =
      if space = other ∧ key = otherKey then none else backend.get? other otherKey := by
  cases backend with
  | memory table => exact table.get?_delete space key other otherKey
  | file table => exact table.get?_delete key otherKey named otherNamed

/-- A deletion keeps a backend sound. -/
theorem sound_delete {backend : Backend α} (space key : String) (sound : backend.Sound) :
    (backend.delete space key).2.Sound := by
  cases backend with
  | memory table => exact NestedTable.sound_delete space key sound
  | file table => exact FlatTable.sound_keeping _ sound

/-- Deleting a key that is not there changes nothing that is found, and leaves a sound
backend as it is. -/
theorem delete_absent {backend : Backend α} {space key : String}
    (absent : backend.get? space key = none) :
    (∀ other otherKey, (backend.delete space key).2.get? other otherKey =
        backend.get? other otherKey) ∧
      (backend.Sound → (backend.delete space key).2 = backend) := by
  cases backend with
  | memory table =>
    refine ⟨fun other otherKey => ?_, fun sound => ?_⟩
    · refine (table.get?_delete space key other otherKey).trans ?_
      by_cases same : space = other ∧ key = otherKey
      · obtain ⟨rfl, rfl⟩ := same
        simpa using absent.symm
      · simp only [same, if_false]
        rfl
    · exact congrArg memory (NestedTable.delete_absent sound absent)
  | file table =>
    have unchanged : (table.delete space key).2 = table :=
      congrArg FlatTable.mk (SortedMap.erase_absent absent)
    have same : ((file table).delete space key).2 = file table := congrArg file unchanged
    exact ⟨fun other otherKey => by rw [same], fun _ => same⟩

/-- A value that is put under a free key and deleted again leaves a sound backend as it was, with
no namespace more and none less. -/
theorem delete_inserted {backend after : Backend α} {space key : String} {value : α}
    (sound : backend.Sound) (named : NulFree space)
    (stored : backend.insertNew space [(key, value)] = .ok after) :
    (after.delete space key).2 = backend := by
  have distinct : ([(key, value)].map Prod.fst).Nodup := List.nodup_singleton key
  have free : backend.get? space key = none :=
    (insertNew_ok named distinct stored).1 (key, value) (by simp)
  obtain ⟨filled, filledStored, contents, keptSound⟩ := insertNew_one_free value named free
  obtain rfl : after = filled := Except.ok.inj (stored.symm.trans filledStored)
  have soundAgain := sound_delete space key (keptSound sound)
  have same : ∀ other otherKey, NulFree other →
      (after.delete space key).2.get? other otherKey = backend.get? other otherKey := by
    intro other otherKey otherNamed
    rw [get?_delete after key otherKey named otherNamed, contents other otherKey otherNamed]
    by_cases here : space = other ∧ key = otherKey
    · obtain ⟨rfl, rfl⟩ := here
      simpa using free.symm
    · rw [if_neg here, if_neg here]
  cases backend with
  | memory table =>
    obtain ⟨filled, -, rfl⟩ := map_eq_ok_iff.mp stored
    exact congrArg memory (NestedTable.ext_found soundAgain sound same)
  | file table =>
    obtain ⟨filled, -, rfl⟩ := map_eq_ok_iff.mp stored
    exact congrArg file (FlatTable.ext_found soundAgain sound same)

/-- A dropping says whether there was such a namespace. -/
theorem drop_fst (backend : Backend α) (space : String) :
    (backend.drop space).1 = backend.contains space := by
  cases backend <;> rfl

/-- Dropping a namespace forgets all its keys and no others. -/
theorem get?_drop (backend : Backend α) {space other : String} (key : String)
    (named : NulFree space) (otherNamed : NulFree other) :
    (backend.drop space).2.get? other key =
      if space = other then none else backend.get? other key := by
  cases backend with
  | memory table => exact table.get?_withoutSpace space other key
  | file table => exact table.get?_drop key named otherNamed

/-- Dropping a namespace that is not there changes nothing. -/
theorem drop_absent {backend : Backend α} {space : String}
    (absent : backend.contains space = false) : (backend.drop space).2 = backend := by
  cases backend with
  | memory table =>
    have missing : table.namespaces.get? space = none := by
      simpa [contains, NestedTable.contains, SortedMap.contains] using absent
    exact congrArg (memory ∘ NestedTable.mk) (SortedMap.erase_absent missing)
  | file table =>
    have nothing : (table.within space).isEmpty = true := by
      simpa [contains, FlatTable.contains] using absent
    have kept : (table.records.filterKeys fun key => !FlatTable.isWithin space key) =
        table.records := by
      refine SortedMap.ext_get? fun recordedKey => ?_
      have missing := (SortedMap.isEmpty_iff _).mp nothing recordedKey
      rw [FlatTable.within, SortedMap.get?_filterKeys] at missing
      rw [SortedMap.get?_filterKeys]
      cases inside : FlatTable.isWithin space recordedKey with
      | true => simpa [inside] using missing.symm
      | false => simp
    exact congrArg (file ∘ FlatTable.mk) kept

/-- The removal of a namespace keeps a backend sound. -/
theorem sound_drop {backend : Backend α} (space : String) (sound : backend.Sound) :
    (backend.drop space).2.Sound := by
  cases backend with
  | memory table => exact NestedTable.sound_withoutSpace space sound
  | file table => exact FlatTable.sound_keeping _ sound

/-- The values of a namespace are those of any map that answers like the backend there. -/
theorem values_eq (backend : Backend α) (space : String) {map : SortedMap α}
    (same : ∀ key, map.get? key = backend.get? space key) : backend.values space = map.values := by
  cases backend with
  | memory table =>
    have equal : table.records space = map := SortedMap.ext_get? fun key => (same key).symm
    exact congrArg SortedMap.values equal
  | file table => exact table.values_eq space same

/-- The values of a namespace are those that are found under its keys, each key giving one of
them, in the order of the keys. -/
theorem values_keyed (backend : Backend α) (space : String) :
    ∃ entries : List (String × α), backend.values space = entries.map Prod.snd ∧
      (entries.map Prod.fst).Pairwise (· < ·) ∧
      ∀ entry ∈ entries, backend.get? space entry.1 = some entry.2 := by
  cases backend with
  | memory table =>
    exact ⟨(table.records space).entries, rfl, (table.records space).keys_increasing,
      fun (key, value) member => (SortedMap.mem_entries_iff _ key value).mp member⟩
  | file table => exact table.values_keyed space

/-- In a sound backend a namespace is there exactly if something is found under it. -/
theorem contains_iff {backend : Backend α} (sound : backend.Sound) (space : String) :
    backend.contains space = true ↔ backend.Inhabited space := by
  cases backend with
  | memory table => exact NestedTable.contains_iff sound space
  | file table => exact table.contains_iff space

/-- In a sound backend the namespaces are those under which something is found. -/
theorem mem_spaces_iff {backend : Backend α} (sound : backend.Sound) (space : String) :
    space ∈ backend.spaces ↔ NulFree space ∧ backend.Inhabited space := by
  cases backend with
  | memory table => exact NestedTable.mem_spaces_iff sound space
  | file table => exact table.mem_spaces_iff space

/-- In a sound backend the namespaces are in order, each once. -/
theorem spaces_increasing {backend : Backend α} (sound : backend.Sound) :
    backend.spaces.Pairwise (· < ·) := by
  cases backend with
  | memory table => exact SortedMap.keys_increasing table.namespaces
  | file table => exact table.spaces_increasing

/-! ## Backends by what is found in them -/

/-- The same value is found in both backends under every namespace and key. -/
def Alike (left right : Backend α) : Prop :=
  ∀ space key, NulFree space → left.get? space key = right.get? space key

/-- Backends in which the same is found under a namespace have the same values there, in
the same order. -/
theorem values_eq_of_found {left right : Backend α} {space : String}
    (same : ∀ key, left.get? space key = right.get? space key) :
    left.values space = right.values space := by
  cases left with
  | memory table => exact (right.values_eq space same).symm
  | file table =>
    cases right with
    | memory other => exact (file table).values_eq space fun key => (same key).symm
    | file other =>
      have sameRecords : table.within space = other.within space := by
        refine SortedMap.ext_get? fun recordedKey => ?_
        simp only [FlatTable.within, SortedMap.get?_filterKeys]
        by_cases inside : FlatTable.isWithin space recordedKey = true
        · obtain ⟨key, rfl⟩ := (FlatTable.isWithin_iff _ _).mp inside
          simp only [inside, if_true]
          exact same key
        · simp [inside]
      exact congrArg SortedMap.values sameRecords

/-- Backends in which the same is found list the same values. -/
theorem values_alike {left right : Backend α} {space : String} (named : NulFree space)
    (alike : left.Alike right) : left.values space = right.values space :=
  values_eq_of_found fun key => alike space key named

/-- Sound backends in which the same is found have the same namespaces. -/
theorem spaces_alike {left right : Backend α} (leftSound : left.Sound) (rightSound : right.Sound)
    (alike : left.Alike right) : left.spaces = right.spaces := by
  refine (spaces_increasing leftSound).eq_of_mem_iff (spaces_increasing rightSound) fun space => ?_
  rw [mem_spaces_iff leftSound, mem_spaces_iff rightSound]
  refine and_congr_right fun named => ?_
  simp only [Inhabited, alike space _ named]

end DocumentGateway.Backend

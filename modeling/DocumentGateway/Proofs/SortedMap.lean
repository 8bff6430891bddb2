import DocumentGateway.SortedMap
import Mathlib.Data.List.Sort

/-!
# Laws of sorted maps

A sorted map is determined by what it answers under each key. The laws below say what
every operation does to these answers, so that later proofs compare maps key by key and
never look at the order of their entries again.
-/
namespace DocumentGateway.SortedMap

variable {α : Type}

/-! ## Lists of entries -/

/-- A list is strictly increasing in its keys. -/
abbrev Increasing (entries : List (String × α)) : Prop :=
  entries.Pairwise fun left right => left.1 < right.1

/-- A key that no entry has is not found. -/
theorem lookup_eq_none {key : String} {entries : List (String × α)}
    (absent : key ∉ entries.map Prod.fst) : lookup key entries = none := by
  induction entries with
  | nil => rfl
  | cons entry rest inductionHypothesis =>
    obtain ⟨different, absentRest⟩ : key ≠ entry.1 ∧ key ∉ rest.map Prod.fst := by
      simpa only [List.map_cons, List.mem_cons, not_or] using absent
    simp only [lookup, different.symm, if_false]
    exact inductionHypothesis absentRest

/-- Increasing keys are distinct. -/
theorem keys_nodup {entries : List (String × α)} (increasing : Increasing entries) :
    (entries.map Prod.fst).Nodup := by
  refine List.pairwise_map.mpr (increasing.imp fun {left right} smaller equal => ?_)
  exact String.lt_irrefl right.1 (equal ▸ smaller)

/-- Among distinct keys a key is found with a value exactly if the list holds the pair,
because the first entry with the key is the only one. -/
theorem lookup_eq_some_iff {key : String} {value : α} {entries : List (String × α)}
    (distinct : (entries.map Prod.fst).Nodup) :
    lookup key entries = some value ↔ (key, value) ∈ entries := by
  induction entries with
  | nil => simp [lookup]
  | cons entry rest inductionHypothesis =>
    obtain ⟨fresh, distinctRest⟩ := List.nodup_cons.mp distinct
    by_cases same : entry.1 = key
    · have absent : (key, value) ∉ rest := fun member =>
        fresh (same ▸ List.mem_map_of_mem member)
      simp only [lookup, same, if_true, Option.some.injEq, List.mem_cons, absent, or_false]
      exact ⟨fun equal => Prod.ext same.symm equal.symm, fun equal => equal ▸ rfl⟩
    · have different : (key, value) ≠ entry := fun equal => same (equal ▸ rfl)
      simp only [lookup, same, if_false, List.mem_cons, different, false_or]
      exact inductionHypothesis distinctRest

/-- Two increasing lists with the same entries are the same list. -/
theorem increasing_unique {left right : List (String × α)} (increasingLeft : Increasing left)
    (increasingRight : Increasing right) (same : ∀ entry, entry ∈ left ↔ entry ∈ right) :
    left = right := by
  have irreflexive : Std.Irrefl fun left right : String × α => left.1 < right.1 :=
    ⟨fun entry => String.lt_irrefl entry.1⟩
  have antisymmetric : Std.Antisymm fun left right : String × α => left.1 < right.1 :=
    ⟨fun _ _ smaller larger => absurd (String.lt_trans smaller larger) (String.lt_irrefl _)⟩
  exact increasingLeft.eq_of_mem_iff increasingRight same

/-! ## What operations answer -/

/-- Nothing is found in an empty map. -/
@[simp] theorem get?_empty (key : String) : (empty : SortedMap α).get? key = none := rfl

/-- Storing changes the answer under its own key only. -/
@[simp] theorem get?_insert (map : SortedMap α) (key other : String) (value : α) :
    (map.insert key value).get? other = if key = other then some value else map.get? other := by
  have placed : ∀ entries : List (String × α), lookup other (place key value entries) =
      if key = other then some value else lookup other entries := by
    intro entries
    induction entries with
    | nil => simp [place, lookup]
    | cons entry rest inductionHypothesis =>
      unfold place
      split
      · simp [lookup]
      · split
        · rename_i smaller
          have different : entry.1 ≠ key := fun same => String.lt_irrefl key (same ▸ smaller)
          by_cases found : entry.1 = other
          · simp [lookup, found, show key ≠ other from fun same => different (found.trans same.symm)]
          · simp [lookup, found, inductionHypothesis]
        · rename_i notSmaller notLarger
          have equal : entry.1 = key := String.le_antisymm notSmaller notLarger
          by_cases found : key = other <;> simp [lookup, equal, found]
  exact placed map.entries

/-- Keeping the keys that pass a test forgets the answers under all others. -/
@[simp] theorem get?_filterKeys (map : SortedMap α) (keep : String → Bool) (key : String) :
    (map.filterKeys keep).get? key = if keep key then map.get? key else none := by
  have filtered : ∀ entries : List (String × α),
      lookup key (entries.filter fun entry => keep entry.1) =
        if keep key then lookup key entries else none := by
    intro entries
    induction entries with
    | nil => simp [lookup]
    | cons entry rest inductionHypothesis =>
      by_cases kept : keep entry.1 <;> by_cases found : entry.1 = key <;>
        simp_all [lookup]
  exact filtered map.entries

/-- An erased key is not found any more, and all others are found as before. -/
@[simp] theorem get?_erase (map : SortedMap α) (key other : String) :
    (map.erase key).get? other = if key = other then none else map.get? other := by
  by_cases same : key = other <;> simp [erase, same, Ne.symm]

/-- Stores entries one after another. -/
abbrev insertAll (entries : List (String × α)) (map : SortedMap α) : SortedMap α :=
  entries.foldl (fun map entry => map.insert entry.1 entry.2) map

/-- After entries with distinct keys are stored, the map answers with them first. -/
theorem get?_insertAll {entries : List (String × α)} (distinct : (entries.map Prod.fst).Nodup)
    (map : SortedMap α) (key : String) :
    (insertAll entries map).get? key = (lookup key entries).or (map.get? key) := by
  induction entries generalizing map with
  | nil => simp [insertAll, lookup]
  | cons entry rest inductionHypothesis =>
    obtain ⟨fresh, distinctRest⟩ := List.nodup_cons.mp distinct
    have later : (insertAll rest (map.insert entry.1 entry.2)).get? key = _ :=
      inductionHypothesis distinctRest (map.insert entry.1 entry.2)
    change (insertAll rest (map.insert entry.1 entry.2)).get? key = _
    rw [later, get?_insert]
    by_cases found : entry.1 = key
    · subst found
      simp [lookup, lookup_eq_none fresh]
    · simp [lookup, found]

/-! ## Maps by their answers -/

/-- An entry of a map is what the map answers under its key. -/
theorem mem_entries_iff (map : SortedMap α) (key : String) (value : α) :
    (key, value) ∈ map.entries ↔ map.get? key = some value :=
  (lookup_eq_some_iff (keys_nodup map.increasing)).symm

/-- Maps that answer alike under every key are equal. -/
theorem ext_get? {left right : SortedMap α} (same : ∀ key, left.get? key = right.get? key) :
    left = right := by
  have entries : left.entries = right.entries :=
    increasing_unique left.increasing right.increasing fun (key, value) => by
      rw [mem_entries_iff, mem_entries_iff, same]
  cases left
  cases right
  simpa using entries

/-- Removing what is not there changes nothing. -/
theorem erase_absent {map : SortedMap α} {key : String} (absent : map.get? key = none) :
    map.erase key = map := by
  refine ext_get? fun other => ?_
  rw [get?_erase]
  by_cases same : key = other
  · simp [← same, absent]
  · simp [same]

/-- Storing what is there already changes nothing. -/
theorem insert_present {map : SortedMap α} {key : String} {value : α}
    (present : map.get? key = some value) : map.insert key value = map := by
  refine ext_get? fun other => ?_
  rw [get?_insert]
  by_cases same : key = other
  · simp [← same, present]
  · simp [same]

/-- A map contains a key exactly if a value is found under it. -/
theorem contains_iff (map : SortedMap α) (key : String) :
    map.contains key = true ↔ ∃ value, map.get? key = some value := by
  simp [contains, Option.isSome_iff_exists]

/-- The keys of a map are those under which a value is found. -/
theorem mem_keys_iff (map : SortedMap α) (key : String) :
    key ∈ map.keys ↔ ∃ value, map.get? key = some value := by
  simp [keys, mem_entries_iff]

/-- A map has no entries exactly if it answers nothing under any key. -/
theorem isEmpty_iff (map : SortedMap α) : map.isEmpty = true ↔ ∀ key, map.get? key = none := by
  constructor
  · intro noEntries key
    simp [get?, List.isEmpty_iff.mp noEntries, lookup]
  · intro nothing
    refine List.isEmpty_iff.mpr (List.eq_nil_iff_forall_not_mem.mpr fun (key, value) member => ?_)
    simpa [nothing key] using (mem_entries_iff map key value).mp member

/-- The keys of a map are strictly increasing. -/
theorem keys_increasing (map : SortedMap α) : map.keys.Pairwise (· < ·) :=
  List.pairwise_map.mpr map.increasing

/-! ## Cutting a map -/

/-- A test that every key below a passing one passes as well cuts a map in two. The first entry
that fails has none but failing entries behind it. -/
theorem entries_cut (map : SortedMap α) (keep : String → Bool)
    (downward : ∀ left right, left < right → keep right = true → keep left = true) :
    (map.filterKeys keep).entries ++ (map.filterKeys fun key => !keep key).entries =
      map.entries := by
  have cut : ∀ entries : List (String × α), Increasing entries →
      entries.filter (fun entry => keep entry.1) ++ entries.filter (fun entry => !keep entry.1) =
        entries := by
    intro entries increasing
    induction entries with
    | nil => rfl
    | cons entry rest inductionHypothesis =>
      obtain ⟨below, increasingRest⟩ := List.pairwise_cons.mp increasing
      by_cases passes : keep entry.1 = true
      · simp [passes, inductionHypothesis increasingRest]
      · have fail : ∀ later ∈ rest, ¬ keep later.1 = true := fun later member kept =>
          passes (downward _ _ (below later member) kept)
        have noneKept : rest.filter (fun entry => keep entry.1) = [] :=
          List.filter_eq_nil_iff.mpr fail
        have allLeft : rest.filter (fun entry => !keep entry.1) = rest :=
          List.filter_eq_self.mpr fun later member => by simpa using fail later member
        simp [passes, noneKept, allLeft]
  exact cut map.entries map.increasing

/-- To filter twice is to keep what passes both tests. -/
theorem filterKeys_filterKeys (map : SortedMap α) (keep also : String → Bool) :
    (map.filterKeys keep).filterKeys also = map.filterKeys fun key => also key && keep key := by
  simp [filterKeys, List.filter_filter]

/-- Two such tests cut a map in three: what passes the first test, what passes the second one only,
and what passes neither. -/
theorem entries_cut_twice (map : SortedMap α) (first second : String → Bool)
    (firstDownward : ∀ left right, left < right → first right = true → first left = true)
    (secondDownward : ∀ left right, left < right → second right = true → second left = true) :
    (map.filterKeys first).entries ++ (map.filterKeys fun key => second key && !first key).entries ++
        (map.filterKeys fun key => !second key && !first key).entries = map.entries := by
  have rest := entries_cut (map.filterKeys fun key => !first key) second secondDownward
  rw [filterKeys_filterKeys, filterKeys_filterKeys] at rest
  rw [List.append_assoc, rest, entries_cut map first firstDownward]

/-! ## Maps of other values -/

/-- The map whose values are the images of those of a map. -/
def map {β : Type} (f : α → β) (map : SortedMap α) : SortedMap β :=
  ⟨map.entries.map fun entry => (entry.1, f entry.2), List.pairwise_map.mpr map.increasing⟩

/-- What is found in a mapped map is the image of what was found. -/
@[simp] theorem get?_map {β : Type} (f : α → β) (map : SortedMap α) (key : String) :
    (map.map f).get? key = (map.get? key).map f := by
  have mapped : ∀ entries : List (String × α),
      lookup key (entries.map fun entry => (entry.1, f entry.2)) = (lookup key entries).map f := by
    intro entries
    induction entries with
    | nil => rfl
    | cons entry rest inductionHypothesis =>
      by_cases here : entry.1 = key <;> simp [lookup, here, inductionHypothesis]
  exact mapped map.entries

/-- The values of a mapped map are the images of the values, in the same order. -/
theorem values_map {β : Type} (f : α → β) (map : SortedMap α) :
    (map.map f).values = map.values.map f := by
  simp [values, SortedMap.map]

end DocumentGateway.SortedMap

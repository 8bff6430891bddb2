import DocumentGateway.Proofs.Store.Backend

/-!
# Namespaces that are there

Which namespaces a backend has after every operation. A table of tables may have a
namespace under which nothing is found, so its namespaces do not follow from what is found
in it; the laws here hold of every backend, sound or not.
-/
namespace DocumentGateway

open FlatTable (NulFree)

variable {α : Type}

/-! ## Tables of tables -/

namespace NestedTable

/-- A namespace that is given records is there, even if there are none of them, and the others are
there as before. -/
theorem contains_withRecords (table : NestedTable α) (space other : String)
    (records : SortedMap α) :
    (table.withRecords space records).contains other = true ↔
      space = other ∨ table.contains other = true := by
  by_cases same : space = other <;> simp [withRecords, contains, SortedMap.contains, same]

/-- A removed namespace is gone, and the others are there as before. -/
theorem contains_withoutSpace (table : NestedTable α) (space other : String) :
    (table.withoutSpace space).contains other = true ↔
      space ≠ other ∧ table.contains other = true := by
  by_cases same : space = other <;> simp [withoutSpace, contains, SortedMap.contains, same]

/-- A namespace is there if something is found under it. -/
theorem contains_of_found {table : NestedTable α} {space key : String} {value : α}
    (found : table.get? space key = some value) : table.contains space = true := by
  cases present : table.namespaces.get? space with
  | none => simp [get?, records, present] at found
  | some records => simp [contains, SortedMap.contains, present]

/-- A deletion keeps every other namespace, and its own one if another key is found there. -/
theorem contains_delete (table : NestedTable α) (space key other : String) :
    (table.delete space key).2.contains other = true ↔ table.contains other = true ∧
      (space = other → ∃ otherKey value, key ≠ otherKey ∧ table.get? other otherKey = some value) := by
  rw [delete_snd]
  cases present : table.namespaces.get? space with
  | none =>
    have missing : table.contains space = false := by simp [contains, SortedMap.contains, present]
    constructor
    · intro there
      refine ⟨there, ?_⟩
      rintro rfl
      rw [missing] at there
      cases there
    · exact And.left
  | some records =>
    have there : table.contains space = true := by simp [contains, SortedMap.contains, present]
    have kept : ∀ otherKey, (records.erase key).get? otherKey =
        if key = otherKey then none else table.get? space otherKey := by
      simp [get?, NestedTable.records, present]
    by_cases bare : (records.erase key).isEmpty = true
    · have nothing := (SortedMap.isEmpty_iff _).mp bare
      simp only [bare, if_true, contains_withoutSpace]
      constructor
      · rintro ⟨different, otherThere⟩
        exact ⟨otherThere, fun same => absurd same different⟩
      · rintro ⟨otherThere, inhabited⟩
        refine ⟨?_, otherThere⟩
        rintro rfl
        obtain ⟨otherKey, value, different, found⟩ := inhabited rfl
        have absent := nothing otherKey
        rw [kept, if_neg different, found] at absent
        cases absent
    · have inhabited : ∃ otherKey value, key ≠ otherKey ∧
          table.get? space otherKey = some value := by
        obtain ⟨otherKey, remains⟩ := not_forall.mp (mt (SortedMap.isEmpty_iff _).mpr bare)
        obtain ⟨value, found⟩ := Option.ne_none_iff_exists'.mp remains
        rw [kept] at found
        by_cases same : key = otherKey
        · simp [same] at found
        · exact ⟨otherKey, value, same, by simpa [same] using found⟩
      simp only [bare, Bool.false_eq_true, if_false, contains_withRecords]
      constructor
      · rintro (rfl | otherThere)
        · exact ⟨there, fun _ => inhabited⟩
        · refine ⟨otherThere, ?_⟩
          rintro rfl
          exact inhabited
      · rintro ⟨otherThere, -⟩
        exact .inr otherThere

end NestedTable

/-! ## Tables with one row of records -/

namespace FlatTable

/-- A record brings its namespace into being and no other. -/
theorem contains_withRecord (table : FlatTable α) {space other : String} (key : String) (value : α)
    (named : NulFree space) (otherNamed : NulFree other) :
    (table.withRecord space key value).contains other = true ↔
      space = other ∨ table.contains other = true := by
  simp only [contains_iff, table.get?_withRecord key _ value named otherNamed]
  by_cases same : space = other
  · simp only [same, true_and, true_or, iff_true]
    exact ⟨key, value, if_pos rfl⟩
  · simp [same]

/-- After a batch a namespace of a flat table is there if it was before, or if something was put
into it. -/
theorem contains_insertNew {table after : FlatTable α} {space other : String}
    {entries : List (String × α)} (named : NulFree space) (otherNamed : NulFree other)
    (stored : table.insertNew space entries = .ok after) :
    after.contains other = true ↔
      (space = other ∧ entries ≠ []) ∨ table.contains other = true := by
  induction entries generalizing table with
  | nil =>
    obtain rfl : table = after := Except.ok.inj stored
    simp
  | cons entry rest inductionHypothesis =>
    rw [insertNew_cons] at stored
    split at stored
    · cases stored
    · rw [inductionHypothesis stored, contains_withRecord table _ _ named otherNamed]
      by_cases same : space = other <;> simp [same]

end FlatTable

/-! ## Backends -/

namespace Backend

/-- An insertion of some entries brings its namespace into being and no other. -/
theorem contains_insertNew {backend after : Backend α} {space other : String}
    {entries : List (String × α)} (named : NulFree space) (otherNamed : NulFree other)
    (nonempty : entries ≠ []) (stored : backend.insertNew space entries = .ok after) :
    after.contains other = true ↔ space = other ∨ backend.contains other = true := by
  cases backend with
  | memory table =>
    have inserted : (table.insertNew space entries).map memory = .ok after := stored
    rw [table.insertNew_eq] at inserted
    split at inserted
    · cases inserted
    · obtain rfl := Except.ok.inj inserted
      exact table.contains_withRecords space other _
  | file table =>
    cases inserted : table.insertNew space entries with
    | error error => simp [insertNew, inserted, Except.map] at stored
    | ok filled =>
      obtain rfl : file filled = after := by simpa [insertNew, inserted, Except.map] using stored
      refine (FlatTable.contains_insertNew named otherNamed inserted).trans ?_
      exact or_congr_left (and_iff_left nonempty)

/-- Overwriting a value changes no namespace. -/
theorem contains_replace? {backend after : Backend α} {space key other : String} {value : α}
    (named : NulFree space) (otherNamed : NulFree other)
    (replaced : backend.replace? space key value = some after) :
    after.contains other = true ↔ backend.contains other = true := by
  cases backend with
  | memory table =>
    have changed : (table.replace? space key value).map memory = some after := replaced
    rw [table.replace?_eq] at changed
    split at changed
    · rename_i present
      obtain rfl := Option.some.inj changed
      obtain ⟨old, found⟩ := Option.isSome_iff_exists.mp present
      refine (table.contains_withRecords space other _).trans ?_
      constructor
      · rintro (rfl | there)
        · exact NestedTable.contains_of_found found
        · exact there
      · exact .inr
    · cases changed
  | file table =>
    have changed : (table.replace? space key value).map file = some after := replaced
    rw [table.replace?_eq] at changed
    split at changed
    · rename_i present
      obtain rfl := Option.some.inj changed
      obtain ⟨old, found⟩ := Option.isSome_iff_exists.mp present
      refine (table.contains_withRecord key value named otherNamed).trans ?_
      constructor
      · rintro (rfl | there)
        · exact (table.contains_iff space).mpr ⟨key, old, found⟩
        · exact there
      · exact .inr
    · cases changed

/-- A deletion keeps every other namespace, and its own one if another key is found there. -/
theorem contains_delete (backend : Backend α) {space other : String} (key : String)
    (named : NulFree space) (otherNamed : NulFree other) :
    (backend.delete space key).2.contains other = true ↔ backend.contains other = true ∧
      (space = other → ∃ otherKey value,
        key ≠ otherKey ∧ backend.get? other otherKey = some value) := by
  cases backend with
  | memory table => exact table.contains_delete space key other
  | file table =>
    refine ((table.delete space key).2.contains_iff other).trans ?_
    simp only [table.get?_delete key _ named otherNamed]
    refine Iff.trans ?_ (and_congr_left' (table.contains_iff other).symm)
    constructor
    · rintro ⟨otherKey, value, found⟩
      obtain ⟨kept, found⟩ := Option.ite_none_left_eq_some.mp found
      refine ⟨⟨otherKey, value, found⟩, fun same => ⟨otherKey, value, ?_, found⟩⟩
      exact fun sameKey => kept ⟨same, sameKey⟩
    · rintro ⟨⟨anyKey, anyValue, foundAny⟩, inhabited⟩
      by_cases same : space = other
      · obtain ⟨otherKey, value, different, found⟩ := inhabited same
        refine ⟨otherKey, value, (if_neg ?_).trans found⟩
        exact fun both => different both.2
      · refine ⟨anyKey, anyValue, (if_neg ?_).trans foundAny⟩
        exact fun both => same both.1

/-- Dropping a namespace removes it and no other. -/
theorem contains_drop (backend : Backend α) {space other : String} (named : NulFree space)
    (otherNamed : NulFree other) :
    (backend.drop space).2.contains other = true ↔
      space ≠ other ∧ backend.contains other = true := by
  cases backend with
  | memory table => exact table.contains_withoutSpace space other
  | file table =>
    refine ((table.drop space).2.contains_iff other).trans ?_
    simp only [table.get?_drop _ named otherNamed]
    refine Iff.trans ?_ (and_congr_right' (table.contains_iff other).symm)
    by_cases same : space = other <;> simp [same]

end Backend

end DocumentGateway

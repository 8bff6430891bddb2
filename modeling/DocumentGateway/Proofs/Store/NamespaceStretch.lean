import DocumentGateway.Proofs.Store.FlatTable
import DocumentGateway.Proofs.Text.Utf8

/-!
# Where a namespace stands in the table

Records are ordered by their namespaces first and by their own keys second, also where keys are
compared as bytes. So the records of a namespace make up one stretch of the table, which its
bounds cut out: all records of lesser namespaces come before it and all records of greater ones
after it. A scan answers the stretch, a drop takes it out, and a walk along the table meets the
namespaces in order. Nothing is asked of the other keys in the table.
-/
namespace DocumentGateway.FlatTable

open Utf8 (Precedes)

variable {α : Type}

/-- A key stands between the bounds of a namespace as a row of bytes. The lower bound itself is
included, the upper bound is not. -/
def InRange (space recordedKey : String) : Prop :=
  ¬ Precedes recordedKey (lowerBound space) ∧ Precedes recordedKey (upperBound space)

/-- The table looks for the keys in this range. -/
theorem isWithin_iff_inRange (space recordedKey : String) :
    isWithin space recordedKey = true ↔ InRange space recordedKey := by
  simp only [isWithin, InRange, Utf8.precedes_iff, Bool.and_eq_true, decide_eq_true_eq, String.not_lt]

/-- The range of a namespace holds its own records and those of no other. -/
theorem inRange_recordKey_iff {space other : String} (key : String) (named : NulFree space)
    (otherNamed : NulFree other) : InRange space (recordKey other key) ↔ other = space := by
  rw [← isWithin_iff_inRange, isWithin_recordKey key named otherNamed, decide_eq_true_iff, eq_comm]

/-- Within a namespace the bytes of records stand in the order of the bytes of their own keys. -/
theorem recordKey_precedes_iff (space key other : String) :
    Precedes (recordKey space key) (recordKey space other) ↔ Precedes key other := by
  rw [Utf8.precedes_iff, Utf8.precedes_iff, recordKey_lt_iff]

/-! ## The stretch of a namespace -/

/-- A row of entries is parted into the records of a namespace, in the order of their own keys, and
what stands before and after them. The records before them belong to lesser namespaces, those
after them to greater ones. -/
structure Stretch (space : String) (row before own after : List (String × α)) : Prop where
  whole : row = before ++ own.map (record space) ++ after
  ordered : (own.map Prod.fst).Pairwise Precedes
  lesser : ∀ other key value, NulFree other → (recordKey other key, value) ∈ before →
    Precedes other space
  greater : ∀ other key value, NulFree other → (recordKey other key, value) ∈ after →
    Precedes space other

/-- The lower bound of a namespace is the key that its record under the empty key would have. -/
theorem lowerBound_eq (space : String) : lowerBound space = recordKey space "" := by
  simp [lowerBound, recordKey]

/-- A record below the lower bound of a namespace belongs to a lesser one. -/
theorem space_lt_of_lt_lowerBound {space other key : String} (named : NulFree space)
    (otherNamed : NulFree other) (below : recordKey other key < lowerBound space) :
    other < space := by
  rw [lowerBound_eq, recordKey_lt_recordKey_iff key "" otherNamed named] at below
  refine below.resolve_right fun same => ?_
  exact List.not_lt_nil key.toList (String.lt_iff.mp same.2)

/-- A record that is not below the upper bound of a namespace belongs to a greater one. -/
theorem space_lt_of_not_lt_upperBound {space other key : String} (named : NulFree space)
    (otherNamed : NulFree other) (notBelow : ¬ recordKey other key < upperBound space) :
    space < other := by
  have notOwn : ¬ isWithin space (recordKey other key) = true := by
    simp only [isWithin, Bool.and_eq_true, decide_eq_true_eq]
    exact fun within => notBelow within.2
  rw [isWithin_recordKey key named otherNamed, decide_eq_true_iff] at notOwn
  have lower : lowerBound space < upperBound space := by
    have enclosed := (isWithin_iff space (recordKey space "")).mpr ⟨"", rfl⟩
    simp only [isWithin, Bool.and_eq_true, decide_eq_true_eq] at enclosed
    exact lowerBound_eq space ▸ enclosed.2
  refine (lt_or_gt_of_ne notOwn).resolve_right fun less => notBelow ?_
  refine String.lt_trans ?_ lower
  rw [lowerBound_eq]
  exact (recordKey_lt_recordKey_iff key "" otherNamed named).mpr (.inl less)

/-- In every table each namespace has its stretch. The table is cut at the two bounds of the
namespace. -/
theorem exists_stretch (table : FlatTable α) {space : String} (named : NulFree space) :
    ∃ before own after, Stretch space table.records.entries before own after := by
  let below : String → Bool := fun key => decide (key < lowerBound space)
  let notPast : String → Bool := fun key => decide (key < upperBound space)
  have downward : ∀ bound left right : String, left < right →
      decide (right < bound) = true → decide (left < bound) = true := fun bound left right less pass =>
    decide_eq_true (String.lt_trans less (of_decide_eq_true pass))
  have cut := table.records.entries_cut_twice below notPast (downward _) (downward _)
  have between : (fun key => notPast key && !below key) = isWithin space := by
    funext key
    rw [Bool.eq_iff_iff]
    simp only [isWithin, notPast, below, Bool.and_eq_true, Bool.not_eq_true', decide_eq_true_eq,
      decide_eq_false_iff_not, String.not_lt, and_comm]
  obtain ⟨own, records, increasing⟩ := table.within_records space
  rw [between, ← within, records] at cut
  refine ⟨_, own, _, cut.symm, List.pairwise_map.mpr (increasing.imp Utf8.precedes_of_lt), ?_, ?_⟩
  · intro other key value otherNamed member
    have less : recordKey other key < lowerBound space := by
      simpa [below] using (List.mem_filter.mp member).2
    exact Utf8.precedes_of_lt (space_lt_of_lt_lowerBound named otherNamed less)
  · intro other key value otherNamed member
    have notLess : ¬ recordKey other key < upperBound space := by
      simpa [notPast] using (Bool.and_eq_true_iff.mp (List.mem_filter.mp member).2).1
    exact Utf8.precedes_of_lt (space_lt_of_not_lt_upperBound named otherNamed notLess)

/-! ## What is read off the stretch -/

section Operations

variable {table : FlatTable α} {space : String} {before own after : List (String × α)}

/-- What stands before and after the stretch is outside the bounds of the namespace. -/
theorem Stretch.outside (stretch : Stretch space table.records.entries before own after)
    (named : NulFree space) : ∀ entry ∈ before ++ after, ¬ isWithin space entry.1 = true := by
  intro (recordedKey, value) member inside
  obtain ⟨key, rfl⟩ := (isWithin_iff space recordedKey).mp inside
  rcases List.mem_append.mp member with early | late
  · exact List.lt_irrefl _ (stretch.lesser space key value named early)
  · exact List.lt_irrefl _ (stretch.greater space key value named late)

/-- The stretch is within the bounds. -/
theorem inside_of_mem_records {entry : String × α} (member : entry ∈ own.map (record space)) :
    isWithin space entry.1 = true := by
  obtain ⟨stored, -, rfl⟩ := List.mem_map.mp member
  exact (isWithin_iff space _).mpr ⟨stored.1, rfl⟩

/-- The records within the bounds are the stretch. -/
theorem Stretch.within_entries (stretch : Stretch space table.records.entries before own after)
    (named : NulFree space) : (table.within space).entries = own.map (record space) := by
  have outside := List.forall_mem_append.mp (stretch.outside named)
  change table.records.entries.filter (fun entry => isWithin space entry.1) = _
  rw [stretch.whole, List.filter_append, List.filter_append, List.filter_eq_nil_iff.mpr outside.1,
    List.filter_eq_nil_iff.mpr outside.2,
    List.filter_eq_self.mpr fun entry => inside_of_mem_records, List.nil_append, List.append_nil]

/-- A scan visits the values of the stretch. -/
theorem Stretch.values_eq (stretch : Stretch space table.records.entries before own after)
    (named : NulFree space) : table.values space = own.map Prod.snd := by
  simp [values, SortedMap.values, stretch.within_entries named, record, Function.comp_def]

/-- A namespace that has records has a stretch with entries. -/
theorem Stretch.contains_iff (stretch : Stretch space table.records.entries before own after)
    (named : NulFree space) : table.contains space = true ↔ own ≠ [] := by
  simp [contains, SortedMap.isEmpty, stretch.within_entries named]

/-- The entries of the stretch are what is found in the namespace. -/
theorem Stretch.mem_own_iff (stretch : Stretch space table.records.entries before own after)
    (named : NulFree space) (key : String) (value : α) :
    (key, value) ∈ own ↔ table.get? space key = some value := by
  have injective : Function.Injective (record space : String × α → String × α) := by
    intro left right same
    obtain ⟨keys, values⟩ := Prod.mk.inj same
    exact Prod.ext ((recordKey_inj named named).mp keys).2 values
  have inside : isWithin space (recordKey space key) = true := (isWithin_iff space _).mpr ⟨key, rfl⟩
  calc (key, value) ∈ own
    _ ↔ record space (key, value) ∈ own.map (record space) :=
      (List.mem_map_of_injective injective).symm
    _ ↔ record space (key, value) ∈ (table.within space).entries := by
      rw [stretch.within_entries named]
    _ ↔ table.get? space key = some value := by
      rw [record, SortedMap.mem_entries_iff, within, SortedMap.get?_filterKeys, if_pos inside, get?]

/-- A drop takes the stretch out and leaves the rest as it was. -/
theorem Stretch.drop_entries (stretch : Stretch space table.records.entries before own after)
    (named : NulFree space) : (table.drop space).2.records.entries = before ++ after := by
  have outside := List.forall_mem_append.mp (stretch.outside named)
  change table.records.entries.filter (fun entry => !isWithin space entry.1) = _
  have gone : (own.map (record space)).filter (fun entry => !isWithin space entry.1) = [] :=
    List.filter_eq_nil_iff.mpr fun entry member => by simp [inside_of_mem_records member]
  have kept : ∀ row : List (String × α), (∀ entry ∈ row, ¬ isWithin space entry.1 = true) →
      row.filter (fun entry => !isWithin space entry.1) = row := fun row notInside =>
    List.filter_eq_self.mpr fun entry member => by simpa using notInside entry member
  rw [stretch.whole, List.filter_append, List.filter_append, gone, kept before outside.1,
    kept after outside.2, List.append_nil]

end Operations

/-! ## Namespaces kept apart -/

/-- Records tell namespaces apart. The key of a record determines its namespace and its own key, and
lies in the range of its own namespace only, which is the range that the table looks through. Within
a namespace the bytes of records stand in the order of the bytes of their own keys. In every table,
all of which are in the order of the bytes of their keys, each namespace has one stretch, and a
scan, a test for the namespace and a drop are about this stretch. Along the table the namespaces
stand in the order of their bytes. So a walk that compares each of them with the last one listed is
enough: the table lists each namespace that has records once, in order. -/
theorem namespaces_kept_apart {space other : String} (named : NulFree space)
    (otherNamed : NulFree other) (table : FlatTable α) :
    (∀ key otherKey,
      (recordKey space key = recordKey other otherKey ↔ space = other ∧ key = otherKey) ∧
      (InRange space (recordKey other otherKey) ↔ other = space) ∧
      (Precedes (recordKey space key) (recordKey space otherKey) ↔ Precedes key otherKey)) ∧
    (∀ recordedKey, isWithin space recordedKey = true ↔ InRange space recordedKey) ∧
    table.records.keys.Pairwise Precedes ∧
    (∃ before own after, Stretch space table.records.entries before own after ∧
      (∀ key value, (key, value) ∈ own ↔ table.get? space key = some value) ∧
      table.values space = own.map Prod.snd ∧ (table.contains space = true ↔ own ≠ []) ∧
      (table.drop space).2.records.entries = before ++ after) ∧
    (table.records.keys.filterMap spaceOf?).Pairwise (fun left right =>
      left = right ∨ Precedes left right) ∧
    table.spaces = (table.records.keys.filterMap spaceOf?).foldl listNext [] ∧
    table.spaces.Pairwise Precedes ∧
    ∀ listed, listed ∈ table.spaces ↔
      NulFree listed ∧ ∃ key value, table.get? listed key = some value := by
  obtain ⟨before, own, after, stretch⟩ := table.exists_stretch named
  refine ⟨fun key otherKey => ⟨recordKey_inj named otherNamed,
      inRange_recordKey_iff otherKey named otherNamed, recordKey_precedes_iff space key otherKey⟩,
    isWithin_iff_inRange space, table.records.keys_increasing.imp Utf8.precedes_of_lt,
    ⟨before, own, after, stretch, stretch.mem_own_iff named, stretch.values_eq named,
      stretch.contains_iff named, stretch.drop_entries named⟩,
    table.spacesAlong_ordered.imp (Or.imp_right Utf8.precedes_of_lt),
    withoutRepeats_eq_foldl _, table.spaces_increasing.imp Utf8.precedes_of_lt,
    table.mem_spaces_iff⟩

/-- A namespace beside one that goes on with the character of its upper bound, with keys that begin
with NUL, are empty or hold that character. -/
def neighbours : FlatTable Nat :=
  ((empty.withRecord "db/log\x01" "" 3).withRecord "db/log" "\x00a" 1).withRecord "db/log" "\x01" 2

/-- The theorem at this table. -/
theorem neighbours_kept_apart :
    NulFree "db/log" ∧ NulFree "db/log\x01" ∧
      (∀ key, ¬ InRange "db/log" (recordKey "db/log\x01" key)) ∧
      (∃ before own after, Stretch "db/log" neighbours.records.entries before own after ∧
        ("\x00a", 1) ∈ own ∧ ("\x01", 2) ∈ own ∧ neighbours.values "db/log" = own.map Prod.snd) ∧
      neighbours.spaces.Pairwise Precedes ∧ "db/log" ∈ neighbours.spaces ∧
        "db/log\x01" ∈ neighbours.spaces := by
  have named : NulFree "db/log" := by decide
  have otherNamed : NulFree "db/log\x01" := by decide
  obtain ⟨keys, -, -, ⟨before, own, after, stretch, found, scanned, -⟩, -, -, increasing, listed⟩ :=
    namespaces_kept_apart named otherNamed neighbours
  refine ⟨named, otherNamed, fun key within => ?_, ⟨before, own, after, stretch, ?_, ?_, scanned⟩,
    increasing, ?_, ?_⟩
  · exact absurd ((keys "" key).2.1.mp within) (by decide)
  · exact (found _ _).mpr (by decide)
  · exact (found _ _).mpr (by decide)
  · exact (listed _).mpr ⟨named, "\x01", 2, by decide⟩
  · exact (listed _).mpr ⟨otherNamed, "", 3, by decide⟩

end DocumentGateway.FlatTable

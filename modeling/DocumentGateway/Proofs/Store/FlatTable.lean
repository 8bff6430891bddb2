import DocumentGateway.Proofs.SortedMap
import DocumentGateway.Proofs.Store.RecordKey
import Mathlib.Data.List.Find
import Mathlib.Data.List.Induction
import Mathlib.Data.Set.List

/-!
# Laws of the table with one row of records

Every operation is described by what it does to the values found under namespaces and
keys. The keys of records keep namespaces apart only if these hold no NUL, so the laws
speak of such namespaces. A table is sound if all its records belong to one.
-/
namespace DocumentGateway.FlatTable

open SortedMap (lookup)

variable {α : Type}

/-- Every record belongs to a namespace with a proper name. -/
def Sound (table : FlatTable α) : Prop :=
  ∀ recordedKey value, table.records.get? recordedKey = some value →
    ∃ space key, NulFree space ∧ recordedKey = recordKey space key

/-- A value is found under the key of its record. -/
theorem get?_eq (table : FlatTable α) (space key : String) :
    table.get? space key = table.records.get? (recordKey space key) := rfl

/-- An empty table has no record that could belong nowhere. -/
theorem sound_empty : (empty : FlatTable α).Sound := by
  intro recordedKey value found
  simp [empty] at found

/-- Sound tables in which the same is found under all proper namespaces are the same. -/
theorem ext_found {left right : FlatTable α} (leftSound : left.Sound) (rightSound : right.Sound)
    (same : ∀ space key, NulFree space → left.get? space key = right.get? space key) :
    left = right := by
  refine congrArg mk (SortedMap.ext_get? fun recordedKey => ?_)
  by_cases proper : ∃ space key, NulFree space ∧ recordedKey = recordKey space key
  · obtain ⟨space, key, named, rfl⟩ := proper
    exact same space key named
  · have absent : ∀ table : FlatTable α, table.Sound → table.records.get? recordedKey = none := by
      intro table sound
      exact Option.eq_none_iff_forall_ne_some.mpr fun value found =>
        proper (sound recordedKey value found)
    rw [absent left leftSound, absent right rightSound]

/-- A table with one more record, or another value in a record. -/
def withRecord (table : FlatTable α) (space key : String) (value : α) : FlatTable α :=
  ⟨table.records.insert (recordKey space key) value⟩

/-- A stored record is found under its namespace and key, and all others are found as before. -/
theorem get?_withRecord (table : FlatTable α) {space other : String} (key otherKey : String)
    (value : α) (named : NulFree space) (otherNamed : NulFree other) :
    (table.withRecord space key value).get? other otherKey =
      if space = other ∧ key = otherKey then some value else table.get? other otherKey := by
  simp [withRecord, get?, recordKey_inj named otherNamed]

/-- A table stays sound with one more record in a namespace with a proper name. -/
theorem sound_withRecord {table : FlatTable α} {space : String} (key : String) (value : α)
    (sound : table.Sound) (named : NulFree space) : (table.withRecord space key value).Sound := by
  intro recordedKey found present
  by_cases same : recordKey space key = recordedKey
  · exact ⟨space, key, named, same.symm⟩
  · exact sound recordedKey found (by simpa [withRecord, same] using present)

/-! ## Insertion -/

/-- A table after records of one namespace are stored one after another. -/
def withRecords (table : FlatTable α) (space : String) (entries : List (String × α)) :
    FlatTable α :=
  entries.foldl (fun table entry => table.withRecord space entry.1 entry.2) table

/-- The first step of an insertion refuses a taken key and stores the entry otherwise. -/
theorem insertNew_cons (table : FlatTable α) (space : String) (entry : String × α)
    (rest : List (String × α)) :
    table.insertNew space (entry :: rest) =
      if (table.get? space entry.1).isSome then .error (takenId space entry.1)
      else (table.withRecord space entry.1 entry.2).insertNew space rest := rfl

/-- The keys of a batch before the first one that is taken. -/
def untakenKeys (table : FlatTable α) (space : String) (entries : List (String × α)) :
    List String :=
  (entries.takeWhile fun entry => (table.get? space entry.1).isNone).map Prod.fst

/-- A record whose key does not come before the first taken key of a batch is no matter
for what is found to be taken in the batch. -/
theorem search_withRecord (table : FlatTable α) {space key : String} {entries : List (String × α)}
    (value : α) (named : NulFree space) (fresh : key ∉ table.untakenKeys space entries) :
    (entries.find? fun entry => ((table.withRecord space key value).get? space entry.1).isSome) =
        entries.find? (fun entry => (table.get? space entry.1).isSome) ∧
      (table.withRecord space key value).untakenKeys space entries =
        table.untakenKeys space entries := by
  induction entries with
  | nil => exact ⟨rfl, rfl⟩
  | cons entry rest inductionHypothesis =>
    have found := get?_withRecord table key entry.1 value named named
    cases present : table.get? space entry.1 with
    | some old =>
      have stillPresent : ((table.withRecord space key value).get? space entry.1).isSome := by
        rw [found, present]
        by_cases same : key = entry.1 <;> simp [same]
      simp [untakenKeys, present, Option.isSome_iff_ne_none.mp stillPresent, stillPresent]
    | none =>
      obtain ⟨different, freshRest⟩ : key ≠ entry.1 ∧ key ∉ table.untakenKeys space rest := by
        simpa [untakenKeys, present] using fresh
      have stillFree : (table.withRecord space key value).get? space entry.1 = none := by
        simp [found, different, present]
      obtain ⟨sameSearch, sameKeys⟩ := inductionHypothesis freshRest
      simp only [untakenKeys] at sameKeys
      simp [untakenKeys, present, stillFree, sameSearch, sameKeys]

/-- If no key comes twice before the first taken one, an insertion is refused for the
first taken key, and otherwise stores all entries. An entry just stored does not stand in
the way of the later ones, because its key does not come again. -/
theorem insertNew_eq (table : FlatTable α) {space : String} {entries : List (String × α)}
    (named : NulFree space) (distinct : (table.untakenKeys space entries).Nodup) :
    table.insertNew space entries =
      match entries.find? fun entry => (table.get? space entry.1).isSome with
      | some entry => .error (takenId space entry.1)
      | none => .ok (table.withRecords space entries) := by
  induction entries generalizing table with
  | nil => rfl
  | cons entry rest inductionHypothesis =>
    rw [insertNew_cons, List.find?_cons]
    cases present : table.get? space entry.1 with
    | some old => rfl
    | none =>
      obtain ⟨fresh, distinctRest⟩ : entry.1 ∉ table.untakenKeys space rest ∧
          (table.untakenKeys space rest).Nodup := by
        simpa [untakenKeys, present] using distinct
      obtain ⟨sameSearch, sameKeys⟩ := search_withRecord table entry.2 named fresh
      have later := inductionHypothesis (table.withRecord space entry.1 entry.2)
        (sameKeys ▸ distinctRest)
      rw [sameSearch] at later
      exact later

/-- After entries with distinct keys are stored, they are found before all others. -/
theorem get?_withRecords (table : FlatTable α) {space other : String} (key : String)
    {entries : List (String × α)} (named : NulFree space) (otherNamed : NulFree other)
    (distinct : (entries.map Prod.fst).Nodup) :
    (table.withRecords space entries).get? other key =
      if space = other then (lookup key entries).or (table.get? other key)
      else table.get? other key := by
  induction entries generalizing table with
  | nil => simp [withRecords, lookup]
  | cons entry rest inductionHypothesis =>
    obtain ⟨fresh, distinctRest⟩ := List.nodup_cons.mp distinct
    have later := inductionHypothesis (table.withRecord space entry.1 entry.2) distinctRest
    rw [get?_withRecord table entry.1 key entry.2 named otherNamed] at later
    change ((table.withRecord space entry.1 entry.2).withRecords space rest).get? other key = _
    rw [later]
    by_cases same : space = other
    · by_cases found : entry.1 = key
      · subst found
        simp [same, lookup, SortedMap.lookup_eq_none fresh]
      · simp [same, lookup, found]
    · simp [same]

/-- A table stays sound with more records in a namespace with a proper name. -/
theorem sound_withRecords {table : FlatTable α} {space : String} (entries : List (String × α))
    (sound : table.Sound) (named : NulFree space) : (table.withRecords space entries).Sound := by
  induction entries generalizing table with
  | nil => exact sound
  | cons entry rest inductionHypothesis =>
    exact inductionHypothesis (sound_withRecord entry.1 entry.2 sound named)

/-- In the middle of an insertion some keys have been added to those that were taken. If
one of the added keys comes again before any taken key, or a key is still to come twice,
the insertion is refused for a key that was not taken when it began. -/
theorem insertNew_clash (table : FlatTable α) {space : String} {entries : List (String × α)}
    (named : NulFree space) :
    ∀ (now : FlatTable α) (added : List String),
      (∀ key, (now.get? space key).isSome ↔ key ∈ added ∨ (table.get? space key).isSome) →
      (∀ key ∈ added, table.get? space key = none) →
      (¬ (table.untakenKeys space entries).Nodup ∨
        ∃ key ∈ table.untakenKeys space entries, key ∈ added) →
      ∃ key, now.insertNew space entries = .error (takenId space key) ∧
        table.get? space key = none := by
  induction entries with
  | nil =>
    intro now added _ _ clash
    simp [untakenKeys] at clash
  | cons entry rest inductionHypothesis =>
    intro now added taken untaken clash
    rw [insertNew_cons]
    by_cases free : table.get? space entry.1 = none
    · have unfolded : table.untakenKeys space (entry :: rest) =
          entry.1 :: table.untakenKeys space rest := by simp [untakenKeys, free]
      by_cases again : entry.1 ∈ added
      · have nowTaken : (now.get? space entry.1).isSome := (taken entry.1).mpr (.inl again)
        exact ⟨entry.1, by simp [nowTaken], free⟩
      · have nowFree : ¬ (now.get? space entry.1).isSome := fun isSome =>
          ((taken entry.1).mp isSome).elim again (by simp [free])
        simp only [nowFree, Bool.false_eq_true, if_false]
        refine inductionHypothesis (now.withRecord space entry.1 entry.2) (entry.1 :: added)
          ?_ (List.forall_mem_cons.mpr ⟨free, untaken⟩) ?_
        · intro key
          rw [get?_withRecord now entry.1 key entry.2 named named]
          by_cases same : entry.1 = key
          · simp [same]
          · simp [same, taken key, Ne.symm same]
        · rw [unfolded] at clash
          rcases clash with repeated | ⟨key, member, earlier⟩
          · by_cases inRest : entry.1 ∈ table.untakenKeys space rest
            · exact .inr ⟨entry.1, inRest, by simp⟩
            · exact .inl fun distinct => repeated (List.nodup_cons.mpr ⟨inRest, distinct⟩)
          · rcases List.mem_cons.mp member with rfl | inRest
            · exact absurd earlier again
            · exact .inr ⟨key, inRest, List.mem_cons_of_mem _ earlier⟩
    · have unfolded : table.untakenKeys space (entry :: rest) = [] := by
        simp [untakenKeys, Option.isNone_iff_eq_none, free]
      simp [unfolded] at clash

/-- A key that comes twice before any taken key is refused when it comes again, although
it was not taken before the insertion. -/
theorem insertNew_repeated (table : FlatTable α) {space : String} {entries : List (String × α)}
    (named : NulFree space) (repeated : ¬ (table.untakenKeys space entries).Nodup) :
    ∃ key, table.insertNew space entries = .error (takenId space key) ∧
      table.get? space key = none :=
  table.insertNew_clash named table [] (by simp) (by simp) (.inl repeated)

/-! ## Replacement and removal -/

/-- A record is replaced exactly if it is there. -/
theorem replace?_eq (table : FlatTable α) (space key : String) (value : α) :
    table.replace? space key value =
      if (table.get? space key).isSome then some (table.withRecord space key value)
      else none := rfl

/-- A table that keeps only some of its records. -/
def keeping (table : FlatTable α) (keep : String → Bool) : FlatTable α :=
  ⟨table.records.filterKeys keep⟩

/-- What is found after some records are left out is what was found in those that were kept. -/
theorem get?_keeping (table : FlatTable α) (keep : String → Bool) (space key : String) :
    (table.keeping keep).get? space key =
      if keep (recordKey space key) then table.get? space key else none := by
  simp [keeping, get?]

/-- Leaving records out keeps a table sound. -/
theorem sound_keeping {table : FlatTable α} (keep : String → Bool) (sound : table.Sound) :
    (table.keeping keep).Sound := by
  intro recordedKey value found
  by_cases kept : keep recordedKey
  · exact sound recordedKey value (by simpa [keeping, kept] using found)
  · simp [keeping, kept] at found

/-- A deletion leaves out the one record of its key, and answers whether it was there. -/
theorem delete_eq (table : FlatTable α) (space key : String) :
    table.delete space key =
      ((table.get? space key).isSome, table.keeping (· ≠ recordKey space key)) := rfl

/-- A deletion forgets its own key only. -/
theorem get?_delete (table : FlatTable α) {space other : String} (key otherKey : String)
    (named : NulFree space) (otherNamed : NulFree other) :
    (table.delete space key).2.get? other otherKey =
      if space = other ∧ key = otherKey then none else table.get? other otherKey := by
  have swapped : other = space ∧ otherKey = key ↔ space = other ∧ key = otherKey :=
    ⟨fun both => ⟨both.1.symm, both.2.symm⟩, fun both => ⟨both.1.symm, both.2.symm⟩⟩
  rw [delete_eq, get?_keeping]
  by_cases same : space = other ∧ key = otherKey <;>
    simp [recordKey_inj otherNamed named, swapped, same]

/-- The removal of a namespace leaves out its stretch, and answers whether there was one. -/
theorem drop_eq (table : FlatTable α) (space : String) :
    table.drop space = (table.contains space, table.keeping fun key => !isWithin space key) := rfl

/-- A record stands between the bounds of its own namespace only. -/
theorem isWithin_recordKey {space other : String} (key : String) (named : NulFree space)
    (otherNamed : NulFree other) : isWithin space (recordKey other key) = decide (space = other) := by
  rw [Bool.eq_iff_iff, isWithin_iff, decide_eq_true_iff]
  constructor
  · rintro ⟨ownKey, same⟩
    exact ((recordKey_inj otherNamed named).mp same).1.symm
  · rintro rfl
    exact ⟨key, rfl⟩

/-- Dropping a namespace forgets all its keys and no others. -/
theorem get?_drop (table : FlatTable α) {space other : String} (key : String)
    (named : NulFree space) (otherNamed : NulFree other) :
    (table.drop space).2.get? other key =
      if space = other then none else table.get? other key := by
  rw [drop_eq, get?_keeping, isWithin_recordKey key named otherNamed]
  by_cases same : space = other <;> simp [same]

/-! ## Namespaces -/

/-- The record that a value is kept in under its key. -/
def record (space : String) (entry : String × α) : String × α :=
  (recordKey space entry.1, entry.2)

/-- Entries stand in the order of their records. -/
theorem increasing_record_iff (space : String) (entries : List (String × α)) :
    SortedMap.Increasing (entries.map (record space)) ↔ SortedMap.Increasing entries := by
  simp only [SortedMap.Increasing, List.pairwise_map, record, recordKey_lt_iff]

/-- The records of a namespace are the entries of any map that answers like the table
there, under the keys of records. Both lists are increasing, because keys of records are
ordered like their own keys. -/
theorem within_entries (table : FlatTable α) (space : String) {map : SortedMap α}
    (same : ∀ key, map.get? key = table.get? space key) :
    (table.within space).entries = map.entries.map (record space) := by
  refine SortedMap.increasing_unique (table.within space).increasing
    ((increasing_record_iff space map.entries).mpr map.increasing) ?_
  intro (recordedKey, value)
  rw [SortedMap.mem_entries_iff, within, SortedMap.get?_filterKeys, List.mem_map]
  constructor
  · intro found
    by_cases inside : isWithin space recordedKey
    · obtain ⟨key, rfl⟩ := (isWithin_iff space recordedKey).mp inside
      refine ⟨(key, value), ?_, rfl⟩
      rw [SortedMap.mem_entries_iff, same, get?_eq]
      simpa [inside] using found
    · simp [inside] at found
  · rintro ⟨⟨key, stored⟩, member, equal⟩
    obtain ⟨rfl, rfl⟩ := Prod.mk.inj equal
    have inside : isWithin space (recordKey space key) = true :=
      (isWithin_iff space _).mpr ⟨key, rfl⟩
    rw [SortedMap.mem_entries_iff, same, get?_eq] at member
    simpa [inside] using member

/-- The values of a namespace are those of any map that answers like the table there. -/
theorem values_eq (table : FlatTable α) (space : String) {map : SortedMap α}
    (same : ∀ key, map.get? key = table.get? space key) : table.values space = map.values := by
  simp [values, SortedMap.values, within_entries table space same, record, Function.comp_def]

/-- The records of a namespace hold keys of their own, and stand in the order of these. -/
theorem within_records (table : FlatTable α) (space : String) :
    ∃ entries : List (String × α), (table.within space).entries = entries.map (record space) ∧
      SortedMap.Increasing entries := by
  have recorded : ∀ kept ∈ (table.within space).entries, ∃ entry, record space entry = kept := by
    intro (recordedKey, value) member
    have found := (SortedMap.mem_entries_iff _ _ _).mp member
    rw [within, SortedMap.get?_filterKeys, Option.ite_none_right_eq_some] at found
    obtain ⟨key, rfl⟩ := (isWithin_iff space recordedKey).mp found.1
    exact ⟨(key, value), rfl⟩
  obtain ⟨entries, records⟩ : (table.within space).entries ∈ Set.range (List.map (record space)) := by
    rw [Set.range_list_map]
    exact recorded
  exact ⟨entries, records.symm,
    (increasing_record_iff space entries).mp (records ▸ (table.within space).increasing)⟩

/-- The values of a namespace are found under the keys that their records hold, in the order of
these. -/
theorem values_keyed (table : FlatTable α) (space : String) :
    ∃ entries : List (String × α), table.values space = entries.map Prod.snd ∧
      (entries.map Prod.fst).Pairwise (· < ·) ∧
      ∀ entry ∈ entries, table.get? space entry.1 = some entry.2 := by
  obtain ⟨entries, records, increasing⟩ := table.within_records space
  refine ⟨entries, ?_, List.pairwise_map.mpr increasing, fun entry member => ?_⟩
  · simp [values, SortedMap.values, records, record, Function.comp_def]
  · have kept : record space entry ∈ (table.within space).entries :=
      records ▸ List.mem_map_of_mem member
    have found := (SortedMap.mem_entries_iff _ _ _).mp kept
    rw [within, SortedMap.get?_filterKeys, Option.ite_none_right_eq_some] at found
    exact found.2

/-- A namespace has records exactly if something is found under it. -/
theorem contains_iff (table : FlatTable α) (space : String) :
    table.contains space = true ↔ ∃ key value, table.get? space key = some value := by
  have nonempty : table.contains space = true ↔ ¬ (table.within space).isEmpty = true := by
    simp [contains]
  rw [nonempty, SortedMap.isEmpty_iff]
  constructor
  · intro notAll
    obtain ⟨recordedKey, found⟩ := not_forall.mp notAll
    rw [within, SortedMap.get?_filterKeys] at found
    by_cases inside : isWithin space recordedKey
    · obtain ⟨key, rfl⟩ := (isWithin_iff space recordedKey).mp inside
      obtain ⟨value, present⟩ := Option.ne_none_iff_exists'.mp (by simpa [inside] using found)
      exact ⟨key, value, present⟩
    · simp [inside] at found
  · rintro ⟨key, value, present⟩ nothing
    have inside : isWithin space (recordKey space key) = true :=
      (isWithin_iff space _).mpr ⟨key, rfl⟩
    have absent := nothing (recordKey space key)
    rw [within, SortedMap.get?_filterKeys] at absent
    rw [get?] at present
    simp [inside, present] at absent

/-- A text in front counts unless the next one that counts is the same. -/
theorem withoutRepeats_cons (text : String) (rest : List String) :
    withoutRepeats (text :: rest) =
      if (withoutRepeats rest).head? = some text then withoutRepeats rest
      else text :: withoutRepeats rest := by
  rw [withoutRepeats]
  cases withoutRepeats rest with
  | nil => simp
  | cons next others =>
    by_cases same : text = next
    · simp [same]
    · simp [same, Ne.symm same]

/-- Leaving out repeats loses no text. -/
theorem mem_withoutRepeats_iff (texts : List String) :
    ∀ text, text ∈ withoutRepeats texts ↔ text ∈ texts := by
  induction texts with
  | nil => simp [withoutRepeats]
  | cons first rest inductionHypothesis =>
    intro text
    rw [withoutRepeats_cons]
    split
    · rename_i head
      have already : first ∈ rest :=
        (inductionHypothesis first).mp (List.mem_of_mem_head? head)
      rw [inductionHypothesis, List.mem_cons]
      exact ⟨.inr, fun either => either.elim (fun same => same ▸ already) id⟩
    · simp [inductionHypothesis]

/-- A walk that lists texts takes one more: it lists the text unless it is the last one listed. -/
def listNext (listed : List String) (text : String) : List String :=
  if listed.getLast? = some text then listed else listed ++ [text]

/-- Read from the other end: a text at the end counts unless the last one that counts is the same.
-/
theorem withoutRepeats_concat (texts : List String) (text : String) :
    withoutRepeats (texts ++ [text]) = listNext (withoutRepeats texts) text := by
  induction texts with
  | nil => rfl
  | cons first rest inductionHypothesis =>
    rw [List.cons_append, withoutRepeats_cons, inductionHypothesis, withoutRepeats_cons]
    cases withoutRepeats rest with
    | nil => by_cases same : text = first <;> simp [listNext, same, Ne.symm]
    | cons next others =>
      have sameHead : (listNext (next :: others) text).head? = some next := by
        unfold listNext
        split <;> rfl
      have behind : listNext (first :: next :: others) text =
          first :: listNext (next :: others) text := by
        simp only [listNext, List.getLast?_cons_cons, List.cons_append]
        split <;> rfl
      rw [sameHead, List.head?_cons, ← behind]
      split <;> rfl

/-- Leaving out repeats is such a walk, although it goes from the other end. -/
theorem withoutRepeats_eq_foldl (texts : List String) :
    withoutRepeats texts = texts.foldl listNext [] := by
  induction texts using List.reverseRecOn with
  | nil => rfl
  | append_singleton texts text inductionHypothesis =>
    rw [withoutRepeats_concat, inductionHypothesis, List.foldl_concat]

/-- Without repeats, texts in order are strictly increasing. A text that is not left out
differs from the next one kept, which is the least of those that follow. -/
theorem withoutRepeats_increasing {texts : List String}
    (ordered : texts.Pairwise fun left right => left = right ∨ left < right) :
    (withoutRepeats texts).Pairwise (· < ·) := by
  induction texts with
  | nil => simp [withoutRepeats]
  | cons first rest inductionHypothesis =>
    obtain ⟨below, orderedRest⟩ := List.pairwise_cons.mp ordered
    have increasing := inductionHypothesis orderedRest
    rw [withoutRepeats_cons]
    split
    · exact increasing
    · rename_i differs
      refine List.pairwise_cons.mpr ⟨fun text member => ?_, increasing⟩
      cases kept : withoutRepeats rest with
      | nil => simp [kept] at member
      | cons next others =>
        have nextInRest : next ∈ rest := (mem_withoutRepeats_iff rest next).mp (by simp [kept])
        have firstBelow : first < next := by
          rcases below next nextInRest with same | less
          · exact absurd (by simp [kept, same]) differs
          · exact less
        rw [kept] at member increasing
        rcases List.mem_cons.mp member with rfl | later
        · exact firstBelow
        · exact String.lt_trans firstBelow (List.rel_of_pairwise_cons increasing later)

/-- Along the table, the namespaces are in order. -/
theorem spacesAlong_ordered (table : FlatTable α) :
    (table.records.keys.filterMap spaceOf?).Pairwise fun left right => left = right ∨ left < right := by
  refine List.pairwise_filterMap.mpr ((SortedMap.keys_increasing table.records).imp ?_)
  intro left right smaller space spaceOfLeft other spaceOfRight
  obtain ⟨named, leftKey, rfl⟩ := spaceOf?_eq_some_iff.mp spaceOfLeft
  obtain ⟨otherNamed, rightKey, rfl⟩ := spaceOf?_eq_some_iff.mp spaceOfRight
  rcases (recordKey_lt_recordKey_iff leftKey rightKey named otherNamed).mp smaller with
    less | ⟨same, -⟩
  · exact .inr less
  · exact .inl same

/-- The namespaces are in order, each once. -/
theorem spaces_increasing (table : FlatTable α) : table.spaces.Pairwise (· < ·) :=
  withoutRepeats_increasing table.spacesAlong_ordered

/-- The namespaces are those under which something is found. -/
theorem mem_spaces_iff (table : FlatTable α) (space : String) :
    space ∈ table.spaces ↔ NulFree space ∧ ∃ key value, table.get? space key = some value := by
  simp only [spaces, mem_withoutRepeats_iff, List.mem_filterMap, SortedMap.mem_keys_iff,
    spaceOf?_eq_some_iff]
  constructor
  · rintro ⟨recordedKey, ⟨value, present⟩, named, key, rfl⟩
    exact ⟨named, key, value, present⟩
  · rintro ⟨named, key, value, present⟩
    exact ⟨recordKey space key, ⟨value, present⟩, named, key, rfl⟩

end DocumentGateway.FlatTable

import DocumentGateway.Keyed
import Mathlib.Data.List.Nodup
import Mathlib.Data.List.Perm.Subperm

/-!
# Laws of keyed lists

What a keyed list answers after an entry is stored or removed, and which entries it holds then.
-/
namespace DocumentGateway.Keyed

variable {κ α : Type} [DecidableEq κ]

/-- What is answered under a key is held with this key. -/
theorem mem_of_get? {key : κ} {value : α} {entries : List (κ × α)}
    (found : get? key entries = some value) : (key, value) ∈ entries := by
  induction entries with
  | nil => cases found
  | cons entry rest inductionHypothesis =>
    by_cases same : entry.1 = key
    · have valueHere : entry.2 = value := by simpa [get?, same] using found
      exact List.mem_cons.mpr (.inl (Prod.ext same.symm valueHere.symm))
    · have foundLater : get? key rest = some value := by simpa [get?, same] using found
      exact List.mem_cons_of_mem entry (inductionHypothesis foundLater)

/-- If each key is held once, an entry is answered under its key. -/
theorem get?_of_mem {entries : List (κ × α)} (distinct : (keys entries).Nodup) {entry : κ × α}
    (member : entry ∈ entries) : get? entry.1 entries = some entry.2 := by
  induction entries with
  | nil => cases member
  | cons first rest inductionHypothesis =>
    obtain ⟨fresh, distinctRest⟩ := List.nodup_cons.mp distinct
    rcases List.mem_cons.mp member with rfl | later
    · simp [get?]
    · have different : first.1 ≠ entry.1 := fun same => fresh (same ▸ List.mem_map_of_mem later)
      rw [get?, if_neg different]
      exact inductionHypothesis distinctRest later

/-- If each key is held once, what is answered does not depend on the order of the entries. -/
theorem get?_perm {left right : List (κ × α)} (distinct : (keys left).Nodup)
    (perm : left.Perm right) (key : κ) : get? key left = get? key right := by
  have distinctRight : (keys right).Nodup := (perm.map Prod.fst).nodup_iff.mp distinct
  ext value
  constructor
  · intro found
    exact get?_of_mem distinctRight (perm.mem_iff.mp (mem_of_get? found))
  · intro found
    exact get?_of_mem distinct (perm.mem_iff.mpr (mem_of_get? found))

omit [DecidableEq κ] in
/-- If each key of an equally long list is among these keys, they are its keys. -/
theorem keys_perm_of_subset {left right : List (κ × α)} (distinct : (keys left).Nodup)
    (sameLength : left.length = right.length) (among : keys left ⊆ keys right) :
    (keys left).Perm (keys right) := by
  have atMost : (keys right).length ≤ (keys left).length := by simp [keys, sameLength]
  exact (List.subperm_of_subset distinct among).perm_of_length_le atMost

/-- Nothing is answered under a key that is not held. -/
theorem get?_absent {key : κ} {entries : List (κ × α)} (absent : key ∉ keys entries) :
    get? key entries = none := by
  cases found : get? key entries with
  | none => rfl
  | some value => exact absurd (List.mem_map_of_mem (mem_of_get? found)) absent

/-- After an entry is stored, every entry is this one or was there before. -/
theorem mem_insert {key : κ} {value : α} {entries : List (κ × α)} {entry : κ × α}
    (member : entry ∈ insert key value entries) : entry = (key, value) ∨ entry ∈ entries := by
  induction entries with
  | nil => simpa [insert] using member
  | cons first rest inductionHypothesis =>
    by_cases same : first.1 = key
    · rw [insert, if_pos same] at member
      exact (List.mem_cons.mp member).imp_right (List.mem_cons_of_mem first)
    · rw [insert, if_neg same] at member
      rcases List.mem_cons.mp member with here | later
      · exact .inr (List.mem_cons.mpr (.inl here))
      · exact (inductionHypothesis later).imp_right (List.mem_cons_of_mem first)

/-- A new key comes to the end. -/
theorem insert_absent {key : κ} {value : α} {entries : List (κ × α)}
    (absent : key ∉ keys entries) : insert key value entries = entries ++ [(key, value)] := by
  induction entries with
  | nil => rfl
  | cons first rest inductionHypothesis =>
    obtain ⟨different, absentLater⟩ := not_or.mp (mt List.mem_cons.mpr absent)
    rw [insert, if_neg (Ne.symm different), inductionHypothesis absentLater, List.cons_append]

/-- Storing changes the answer under its own key only. -/
@[simp] theorem get?_insert (key other : κ) (value : α) (entries : List (κ × α)) :
    get? other (insert key value entries) =
      if key = other then some value else get? other entries := by
  induction entries with
  | nil => simp [insert, get?]
  | cons first rest inductionHypothesis =>
    by_cases here : first.1 = key
    · subst here
      by_cases asked : first.1 = other <;> simp [insert, get?, asked]
    · by_cases asked : first.1 = other
      · have different : key ≠ other := fun same => here (asked.trans same.symm)
        simp [insert, get?, asked, different, different.symm]
      · simp [insert, get?, here, asked, inductionHypothesis]

/-- Storing what is answered anyway changes nothing. -/
theorem insert_present {key : κ} {value : α} {entries : List (κ × α)}
    (found : get? key entries = some value) : insert key value entries = entries := by
  induction entries with
  | nil => cases found
  | cons first rest inductionHypothesis =>
    by_cases here : first.1 = key
    · have valueHere : first.2 = value := by simpa [get?, here] using found
      rw [insert, if_pos here, ← here, ← valueHere]
    · have foundLater : get? key rest = some value := by simpa [get?, here] using found
      rw [insert, if_neg here, inductionHypothesis foundLater]

/-- Entries that are left out by their keys are answered no more. -/
theorem get?_filter (keep : κ → Bool) (key : κ) (entries : List (κ × α)) :
    get? key (entries.filter fun entry => keep entry.1) =
      if keep key then get? key entries else none := by
  induction entries with
  | nil => simp [get?]
  | cons first rest inductionHypothesis =>
    by_cases kept : keep first.1 <;> by_cases here : first.1 = key <;>
      simp_all [get?]

/-- A key is contained exactly if it is listed among the keys. -/
theorem contains_iff {key : κ} {entries : List (κ × α)} :
    contains key entries = true ↔ key ∈ keys entries := by
  induction entries with
  | nil => simp [contains, get?, keys]
  | cons first rest inductionHypothesis =>
    by_cases here : first.1 = key
    · simp [contains, get?, keys, here]
    · simpa [contains, get?, keys, here, Ne.symm here] using inductionHypothesis

/-- The entries whose key is not the given one are all entries if this key is not held. -/
theorem filter_absent {key : κ} {entries : List (κ × α)} (absent : key ∉ keys entries) :
    entries.filter (fun entry => !decide (entry.1 = key)) = entries := by
  apply List.filter_eq_self.mpr
  intro entry member
  have different : entry.1 ≠ key := fun same => absent (same ▸ List.mem_map_of_mem member)
  simp [different]

/-- What takes the place of the entry with a key takes no place if the key is not held. -/
theorem map_absent {key : κ} {entries : List (κ × α)} (substitute : κ × α)
    (absent : key ∉ keys entries) :
    (entries.map fun entry => if entry.1 = key then substitute else entry) = entries := by
  apply (List.map_congr_left ?_).trans (List.map_id entries)
  intro entry member
  have different : entry.1 ≠ key := fun same => absent (same ▸ List.mem_map_of_mem member)
  simp [different]

/-- Removal keeps the entries with other keys, in another order. -/
theorem swapRemove_perm {key : κ} {entries : List (κ × α)} (distinct : (keys entries).Nodup) :
    (swapRemove key entries).Perm (entries.filter fun entry => !decide (entry.1 = key)) := by
  rcases List.eq_nil_or_concat entries with rfl | ⟨before, last, rfl⟩
  · exact .nil
  rw [List.concat_eq_append] at distinct ⊢
  have apart : (keys before).Nodup ∧ last.1 ∉ keys before := by
    simpa [keys, List.nodup_append, and_comm, imp_not_comm, eq_comm] using distinct
  obtain ⟨distinctBefore, lastFresh⟩ := apart
  rw [swapRemove, List.getLast?_concat, List.dropLast_concat, List.filter_append]
  by_cases here : last.1 = key
  · subst here
    simp [filter_absent lastFresh]
  · rw [List.filter_cons_of_pos (by simpa using here), List.filter_nil]
    by_cases held : key ∈ keys before
    · -- the last entry stands where the removed one stood
      obtain ⟨removed, member, rfl⟩ := List.mem_map.mp held
      obtain ⟨first, second, rfl⟩ := List.append_of_mem member
      obtain ⟨absentFirst, absentSecond⟩ :
          removed.1 ∉ keys first ∧ removed.1 ∉ keys second := by
        simp only [keys, List.map_append, List.map_cons, List.nodup_append, List.nodup_cons]
          at distinctBefore
        refine ⟨fun inFirst => ?_, distinctBefore.2.1.1⟩
        exact distinctBefore.2.2 _ inFirst _ (List.mem_cons_self ..) rfl
      have present : contains removed.1 (first ++ removed :: second ++ [last]) = true :=
        contains_iff.mpr (by simp [keys])
      simp only [here, if_false, present, if_true, List.map_append, List.map_cons,
        map_absent last absentFirst, map_absent last absentSecond, List.filter_append,
        filter_absent absentFirst]
      rw [List.filter_cons_of_neg (by simp), filter_absent absentSecond]
      simpa using List.perm_middle.trans (List.perm_append_singleton last (first ++ second)).symm
    · have absent : key ∉ keys (before ++ [last]) := by
        simpa [keys, Ne.symm here] using held
      rw [filter_absent held]
      simp only [here, if_false, contains_iff, absent]
      exact .refl _

/-- Removal keeps the keys apart. -/
theorem keys_swapRemove_nodup {key : κ} {entries : List (κ × α)} (distinct : (keys entries).Nodup) :
    (keys (swapRemove key entries)).Nodup := by
  have kept : (keys (entries.filter fun entry => !decide (entry.1 = key))).Nodup :=
    distinct.sublist (List.filter_sublist.map Prod.fst)
  exact ((swapRemove_perm distinct).map Prod.fst).nodup_iff.mpr kept

/-- Removal changes the answer under its own key only, although it moves an entry. -/
theorem get?_swapRemove {key : κ} {entries : List (κ × α)} (distinct : (keys entries).Nodup)
    (other : κ) :
    get? other (swapRemove key entries) = if key = other then none else get? other entries := by
  rw [get?_perm (keys_swapRemove_nodup distinct) (swapRemove_perm distinct),
    get?_filter (fun kept => !decide (kept = key))]
  by_cases same : key = other
  · simp [same]
  · simp [same, Ne.symm same]

/-- A key that is there keeps its place, and a new one comes to the end. -/
theorem keys_insert (key : κ) (value : α) (entries : List (κ × α)) :
    keys (insert key value entries) =
      if key ∈ keys entries then keys entries else keys entries ++ [key] := by
  induction entries with
  | nil => simp [insert, keys]
  | cons first rest inductionHypothesis =>
    by_cases here : first.1 = key
    · simp [insert, keys, here]
    · simp only [keys] at inductionHypothesis
      by_cases later : key ∈ rest.map Prod.fst
      · simp [insert, keys, here, inductionHypothesis, later]
      · simp [insert, keys, here, inductionHypothesis, later, Ne.symm here]

/-- A keyed list is determined by its keys in their order and what it answers under them. -/
theorem ext_get? {left right : List (κ × α)} (distinct : (keys left).Nodup)
    (sameKeys : keys left = keys right) (same : ∀ key, get? key left = get? key right) :
    left = right := by
  induction left generalizing right with
  | nil =>
    cases right with
    | nil => rfl
    | cons first rest => simp [keys] at sameKeys
  | cons entry others inductionHypothesis =>
    cases right with
    | nil => simp [keys] at sameKeys
    | cons first rest =>
      obtain ⟨fresh, distinctOthers⟩ := List.nodup_cons.mp distinct
      obtain ⟨sameKey, sameOthers⟩ : entry.1 = first.1 ∧ keys others = keys rest := by
        simpa [keys] using sameKeys
      have sameValue : entry.2 = first.2 := by
        simpa [get?, sameKey] using same entry.1
      have laterAlike : ∀ key, get? key others = get? key rest := by
        intro key
        by_cases here : entry.1 = key
        · have absentLeft : get? key others = none := get?_absent (here ▸ fresh)
          have absentRight : get? key rest = none := get?_absent (sameOthers ▸ here ▸ fresh)
          rw [absentLeft, absentRight]
        · simpa [get?, here, ← sameKey] using same key
      rw [inductionHypothesis distinctOthers sameOthers laterAlike, Prod.ext sameKey sameValue]

/-- Storing pairs with new and different keys puts them at the end in their order. -/
theorem insertAll_distinct {pairs entries : List (κ × α)}
    (distinct : (keys (entries ++ pairs)).Nodup) : insertAll pairs entries = entries ++ pairs := by
  induction pairs generalizing entries with
  | nil => simp [insertAll]
  | cons pair rest inductionHypothesis =>
    have absent : pair.1 ∉ keys entries := by
      intro present
      simp only [keys, List.map_append, List.map_cons] at distinct
      exact (List.nodup_append.mp distinct).2.2 pair.1 present pair.1 (List.mem_cons_self ..) rfl
    change insertAll rest (insert pair.1 pair.2 entries) = _
    rw [insert_absent absent, inductionHypothesis (by simpa using distinct)]
    simp

/-- A list that holds each key once is the keyed list of itself. -/
theorem ofList_distinct {pairs : List (κ × α)} (distinct : (keys pairs).Nodup) :
    ofList pairs = pairs :=
  insertAll_distinct distinct

/-- Storing keeps the keys apart. -/
theorem keys_insert_nodup {key : κ} {value : α} {entries : List (κ × α)}
    (distinct : (keys entries).Nodup) : (keys (insert key value entries)).Nodup := by
  rw [keys_insert]
  split
  · exact distinct
  · rename_i absent
    exact List.Nodup.append distinct (List.nodup_singleton key) (by simpa using absent)

/-- A keyed list of pairs holds each key once, and holds only given pairs. -/
theorem ofList_spec (pairs : List (κ × α)) :
    (keys (ofList pairs)).Nodup ∧ ∀ entry ∈ ofList pairs, entry ∈ pairs := by
  suffices stored : ∀ entries : List (κ × α), (keys entries).Nodup →
      (keys (insertAll pairs entries)).Nodup ∧
        ∀ entry ∈ insertAll pairs entries, entry ∈ pairs ∨ entry ∈ entries by
    obtain ⟨distinct, given⟩ := stored [] List.nodup_nil
    exact ⟨distinct, fun entry member => (given entry member).resolve_right List.not_mem_nil⟩
  induction pairs with
  | nil => exact fun entries distinct => ⟨distinct, fun entry member => .inr member⟩
  | cons pair rest inductionHypothesis =>
    intro entries distinct
    obtain ⟨distinctAll, given⟩ :=
      inductionHypothesis (insert pair.1 pair.2 entries) (keys_insert_nodup distinct)
    refine ⟨distinctAll, fun entry member => ?_⟩
    rcases given entry member with later | stored
    · exact .inl (List.mem_cons_of_mem pair later)
    · rcases mem_insert stored with rfl | before
      · exact .inl (List.mem_cons_self ..)
      · exact .inr before

/-- A keyed list of pairs holds the key of each of them. -/
theorem mem_keys_ofList {key : κ} {pairs : List (κ × α)} (given : key ∈ keys pairs) :
    key ∈ keys (ofList pairs) := by
  suffices stored : ∀ entries : List (κ × α), key ∈ keys pairs ∨ key ∈ keys entries →
      key ∈ keys (insertAll pairs entries) from stored [] (.inl given)
  clear given
  induction pairs with
  | nil => exact fun entries held => held.resolve_left List.not_mem_nil
  | cons pair rest inductionHypothesis =>
    intro entries held
    refine inductionHypothesis (insert pair.1 pair.2 entries) ?_
    rw [keys_insert]
    rcases held with given | before
    · rcases List.mem_cons.mp given with rfl | later
      · right
        split
        · assumption
        · simp
      · exact .inl later
    · right
      split
      · exact before
      · exact List.mem_append_left _ before

/-- Storing pairs does not change the answer under a key that none of them has. -/
theorem get?_insertAll_absent {key : κ} {pairs : List (κ × α)} (absent : key ∉ keys pairs)
    (entries : List (κ × α)) : get? key (insertAll pairs entries) = get? key entries := by
  induction pairs generalizing entries with
  | nil => rfl
  | cons pair rest inductionHypothesis =>
    obtain ⟨different, absentLater⟩ := not_or.mp (mt List.mem_cons.mpr absent)
    change get? key (insertAll rest (insert pair.1 pair.2 entries)) = _
    rw [inductionHypothesis absentLater, get?_insert, if_neg (Ne.symm different)]

/-- A keyed list answers with the value of the last pair with the key. -/
theorem get?_ofList_last {key : κ} {value : α} (front : List (κ × α)) {back : List (κ × α)}
    (last : key ∉ keys back) : get? key (ofList (front ++ (key, value) :: back)) = some value := by
  have stored : ofList (front ++ (key, value) :: back) =
      insertAll back (insert key value (ofList front)) := by
    simp only [ofList, insertAll, List.foldl_append, List.foldl_cons]
  rw [stored, get?_insertAll_absent last, get?_insert, if_pos rfl]

end DocumentGateway.Keyed

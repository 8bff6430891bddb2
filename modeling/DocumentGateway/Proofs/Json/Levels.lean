import DocumentGateway.Proofs.Json.RoundTrip

/-!
# Reading with more levels

The reader refuses what is nested too deep and for the rest never looks at the levels that
are left. So what it reads within some levels it reads within more, and a text of a value of
any depth is refused or read as the value with its numbers read from their texts.
-/
namespace DocumentGateway.Json

/-- Whatever is read with the tokens within some levels is read within more. -/
structure MoreLevels (fuel : Nat) : Prop where
  value : ∀ {levels more text result}, levels ≤ more →
    readValue fuel levels text = some result → readValue fuel more text = some result
  items : ∀ {levels more text result}, levels ≤ more →
    readItems fuel levels text = some result → readItems fuel more text = some result
  members : ∀ {levels more text result}, levels ≤ more →
    readMembers fuel levels text = some result → readMembers fuel more text = some result

namespace MoreLevels

variable {fuel levels more : Nat} {text : List Char}

/-- What is opened takes one of the levels, and there is one if something was read. -/
theorem value_step (fewer : MoreLevels fuel) (atMost : levels ≤ more) {result : Json × List Char}
    (read : readValue (fuel + 1) levels text = some result) :
    readValue (fuel + 1) more text = some result := by
  rw [readValue] at read ⊢
  split at read
  case h_5 rest _ =>
    cases levels with
    | zero => cases read
    | succ levels =>
      obtain ⟨more, rfl⟩ := Nat.exists_eq_add_of_lt atMost
      simp only at read ⊢
      split at read
      · exact read
      · obtain ⟨found, inside, made⟩ := Option.map_eq_some_iff.mp read
        exact Option.map_eq_some_iff.mpr ⟨found, fewer.items (by omega) inside, made⟩
  case h_6 rest _ =>
    cases levels with
    | zero => cases read
    | succ levels =>
      obtain ⟨more, rfl⟩ := Nat.exists_eq_add_of_lt atMost
      simp only at read ⊢
      split at read
      · exact read
      · obtain ⟨found, inside, made⟩ := Option.map_eq_some_iff.mp read
        exact Option.map_eq_some_iff.mpr ⟨found, fewer.members (by omega) inside, made⟩
  all_goals exact read

/-- If more levels do no harm with some fuel, they do none to items that are read with one more.
-/
theorem items_step (fewer : MoreLevels fuel) (atMost : levels ≤ more)
    {result : List Json × List Char} (read : readItems (fuel + 1) levels text = some result) :
    readItems (fuel + 1) more text = some result := by
  rw [readItems] at read ⊢
  cases item : readValue fuel levels text with
  | none => simp [item] at read
  | some found =>
    rw [item] at read
    rw [fewer.value atMost item]
    simp only at read ⊢
    split at read
    · obtain ⟨items, others, made⟩ := Option.map_eq_some_iff.mp read
      exact Option.map_eq_some_iff.mpr ⟨items, fewer.items atMost others, made⟩
    · exact read
    · cases read

/-- If more levels do no harm with some fuel, they do none to members that are read with one more.
-/
theorem members_step (fewer : MoreLevels fuel) (atMost : levels ≤ more)
    {result : List (String × Json) × List Char}
    (read : readMembers (fuel + 1) levels text = some result) :
    readMembers (fuel + 1) more text = some result := by
  rw [readMembers] at read ⊢
  split at read
  · split at read
    · cases read
    · split at read
      · rename_i afterColon _
        cases value : readValue fuel levels afterColon with
        | none => simp [value] at read
        | some found =>
          rw [value] at read
          simp only [fewer.value atMost value]
          simp only at read
          split at read
          · obtain ⟨members, others, made⟩ := Option.map_eq_some_iff.mp read
            exact Option.map_eq_some_iff.mpr ⟨members, fewer.members atMost others, made⟩
          · exact read
          · cases read
      · cases read
  · cases read

end MoreLevels

/-- The induction is on the number of tokens, because values, items and members read each
other with one token less. -/
theorem moreLevels (fuel : Nat) : MoreLevels fuel := by
  induction fuel with
  | zero => constructor <;> simp [readValue, readItems, readMembers]
  | succ fuel fewer =>
    exact ⟨fun atMost => fewer.value_step atMost, fun atMost => fewer.items_step atMost,
      fun atMost => fewer.members_step atMost⟩

/-- If the text of a value can be read, nothing but its numbers can have changed, however
deep the value is nested. -/
theorem reread?_of_ofText? {levels : Nat} {value read : Json} (regular : value.Regular levels)
    (found : ofText? value.toText = some read) : value.reread? = some read := by
  rw [toText, ofText?, String.toList_ofList, parse?] at found
  cases within : readValue (2 * (print value).length + 2) maxDepth (print value) with
  | none => simp [within] at found
  | some result =>
    have deeper := (moreLevels _).value (Nat.le_max_right levels maxDepth) within
    have whole := (regular.mono (Nat.le_max_left levels maxDepth)).reads
      (2 * (print value).length + 2) [] (by omega) ended_nil
    rw [List.append_nil, deeper] at whole
    obtain ⟨same, reread, rfl⟩ := Option.map_eq_some_iff.mp whole.symm
    obtain rfl : same = read := by simpa [within, skipGap] using found
    exact reread

end DocumentGateway.Json

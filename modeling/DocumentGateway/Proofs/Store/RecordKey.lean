import DocumentGateway.Proofs.Text.Cut
import DocumentGateway.Store.FlatTable
import Mathlib.Data.String.Basic

/-!
# Keys of records

A record's key is its namespace, a NUL, and its own key. Namespaces hold no NUL, so the
first NUL of a record's key tells the two parts apart. NUL is the least character, and
so the records of a namespace stand together, in the order of their own keys, and the
namespaces follow each other in their own order.
-/
namespace DocumentGateway.FlatTable

/-- A text without NUL, as every namespace is. -/
def NulFree (text : String) : Prop := '\x00' ∉ text.toList

instance (text : String) : Decidable (NulFree text) :=
  inferInstanceAs (Decidable ('\x00' ∉ text.toList))

/-- The characters of a record key: the namespace and the key with a zero character between them.
-/
@[simp] theorem toList_recordKey (space key : String) :
    (recordKey space key).toList = space.toList ++ '\x00' :: key.toList := by
  simp [recordKey]

/-- Both parts are read off a record's key. -/
theorem recordKey_inj {space other key otherKey : String} (named : NulFree space)
    (otherNamed : NulFree other) :
    recordKey space key = recordKey other otherKey ↔ space = other ∧ key = otherKey := by
  constructor
  · intro same
    have lists : space.toList ++ '\x00' :: key.toList = other.toList ++ '\x00' :: otherKey.toList := by
      rw [← toList_recordKey, ← toList_recordKey, same]
    have cuts := congrArg (Text.cutAt? ['\x00']) lists
    rw [Text.cutAt?_singleton_append _ named, Text.cutAt?_singleton_append _ otherNamed] at cuts
    obtain ⟨spaces, keys⟩ := Prod.mk.inj (Option.some.inj cuts)
    exact ⟨String.toList_injective spaces, String.toList_injective keys⟩
  · rintro ⟨rfl, rfl⟩
    rfl

/-- The namespace of a record is read off its key. -/
@[simp] theorem spaceOf?_recordKey {space : String} (key : String) (named : NulFree space) :
    spaceOf? (recordKey space key) = some space := by
  simp [spaceOf?, Text.cutAt?_singleton_append _ named]

/-- A key that names a namespace is the key of a record there: the namespace ends at the first
NUL, so it holds none. -/
theorem spaceOf?_eq_some_iff {recordedKey space : String} :
    spaceOf? recordedKey = some space ↔ NulFree space ∧ ∃ key, recordedKey = recordKey space key := by
  constructor
  · intro names
    obtain ⟨⟨before, after⟩, cut, rfl⟩ := Option.map_eq_some_iff.mp names
    obtain ⟨whole, least⟩ := Text.cutAt?_eq_some_iff.mp cut
    refine ⟨?_, String.ofList after, String.toList_injective (by simp [whole])⟩
    intro member
    rw [String.toList_ofList] at member
    obtain ⟨earlier, later, rfl⟩ := List.append_of_mem member
    have shorter := least earlier (later ++ '\x00' :: after) (by simp [whole])
    simp at shorter
  · rintro ⟨named, key, rfl⟩
    exact spaceOf?_recordKey key named

/-! ## The order of records -/

/-- A common beginning does not matter to the order of texts. -/
theorem append_lt_append_iff (front left right : List Char) :
    front ++ left < front ++ right ↔ left < right := by
  induction front with
  | nil => rfl
  | cons c rest inductionHypothesis => simpa using inductionHypothesis

/-- No character is below NUL. -/
theorem not_lt_nul (c : Char) : ¬ c < '\x00' :=
  not_lt.mpr (Char.le_def.mpr (by simp))

/-- Texts that go on with NUL are ordered by their parts before it, and then by those after it. The
induction is on the first text. Where one part ends earlier, its NUL is below the next character of
the other part, which is no NUL. -/
theorem separated_lt_iff {left right : List Char} (leftFree : '\x00' ∉ left)
    (rightFree : '\x00' ∉ right) (after later : List Char) :
    left ++ '\x00' :: after < right ++ '\x00' :: later ↔
      left < right ∨ left = right ∧ after < later := by
  have above : ∀ {c : Char}, '\x00' ≠ c → '\x00' < c := fun {c} different =>
    lt_of_le_of_ne (not_lt.mp (not_lt_nul c)) different
  induction left generalizing right with
  | nil =>
    cases right with
    | nil => simp
    | cons d others =>
      have less : '\x00' < d := above fun same => rightFree (same ▸ List.mem_cons_self)
      simp [List.cons_lt_cons_iff, less]
  | cons c rest inductionHypothesis =>
    cases right with
    | nil =>
      have different : c ≠ '\x00' := fun same => leftFree (same ▸ List.mem_cons_self)
      simp [List.cons_lt_cons_iff, not_lt_nul, different]
    | cons d others =>
      have tails := inductionHypothesis (fun member => leftFree (List.mem_cons_of_mem c member))
        (fun member => rightFree (List.mem_cons_of_mem d member))
      simp only [List.cons_append, List.cons_lt_cons_iff, List.cons.injEq, tails, and_or_left,
        or_assoc, and_assoc]

/-- Records are ordered by their namespaces, and within one namespace by their own keys. -/
theorem recordKey_lt_recordKey_iff {space other : String} (key otherKey : String)
    (named : NulFree space) (otherNamed : NulFree other) :
    recordKey space key < recordKey other otherKey ↔
      space < other ∨ space = other ∧ key < otherKey := by
  simp only [String.lt_iff, toList_recordKey, separated_lt_iff named otherNamed, String.toList_inj]

/-- Within a namespace, records stand in the order of their own keys, whatever its name is. -/
theorem recordKey_lt_iff (space key other : String) :
    recordKey space key < recordKey space other ↔ key < other := by
  simp only [String.lt_iff, toList_recordKey, append_lt_append_iff]
  simp

/-! ## The bounds of a namespace -/

/-- The texts between a text with NUL and the same text with U+0001 behind it are those that go on
with NUL, because no character is between the two. -/
theorem between_iff (front text : List Char) :
    ¬ text < front ++ ['\x00'] ∧ text < front ++ ['\x01'] ↔ ∃ rest, text = front ++ '\x00' :: rest := by
  induction front generalizing text with
  | nil =>
    cases text with
    | nil => simp
    | cons c rest =>
      have next : c < '\x01' ↔ c = '\x00' := by
        rw [Char.lt_def, Char.ext_iff, UInt32.lt_iff_toNat_lt, ← UInt32.toNat_inj]
        change c.val.toNat < 1 ↔ c.val.toNat = 0
        omega
      simp [List.cons_lt_cons_iff, not_lt_nul, next]
  | cons d front inductionHypothesis =>
    cases text with
    | nil => simp
    | cons c rest =>
      simp only [List.cons_append, List.cons_lt_cons_iff, List.cons.injEq, not_or, not_and]
      constructor
      · rintro ⟨⟨notLess, notBefore⟩, less | ⟨rfl, before⟩⟩
        · exact absurd less notLess
        · obtain ⟨tail, equal⟩ := (inductionHypothesis rest).mp ⟨notBefore rfl, before⟩
          exact ⟨tail, rfl, equal⟩
      · rintro ⟨tail, rfl, equal⟩
        obtain ⟨notBefore, before⟩ := (inductionHypothesis rest).mpr ⟨tail, equal⟩
        exact ⟨⟨lt_irrefl _, fun _ => notBefore⟩, .inr ⟨rfl, before⟩⟩

/-- The bounds of a namespace enclose exactly the keys of its records. -/
theorem isWithin_iff (space recordedKey : String) :
    isWithin space recordedKey = true ↔ ∃ key, recordedKey = recordKey space key := by
  have bounds : isWithin space recordedKey = true ↔
      ¬ recordedKey.toList < space.toList ++ ['\x00'] ∧
        recordedKey.toList < space.toList ++ ['\x01'] := by
    simp only [isWithin, Bool.and_eq_true, decide_eq_true_eq, ← String.not_lt, String.lt_iff]
    simp [lowerBound, upperBound]
  refine bounds.trans ((between_iff space.toList recordedKey.toList).trans ⟨?_, ?_⟩)
  · rintro ⟨rest, equal⟩
    exact ⟨String.ofList rest, String.toList_injective (by simp [equal])⟩
  · rintro ⟨key, rfl⟩
    exact ⟨key.toList, by simp⟩

end DocumentGateway.FlatTable

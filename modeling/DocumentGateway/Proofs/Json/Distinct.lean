import DocumentGateway.Proofs.Json.Order
import DocumentGateway.Proofs.Json.Regular

/-!
# Values that hold each key once

Whether each object in a value holds each key once can be decided. It is so of every regular
value, and of what such a value becomes when its text is read: the keys stay, and the values
under them become others of this kind.
-/
namespace DocumentGateway.Json

mutual

/-- Whether each object in a value holds each key once. -/
def isDistinct : Json → Bool
  | .array items => areDistinct items
  | .object members => decide (Keyed.keys members).Nodup && valuesAreDistinct members
  | _ => true

/-- Whether this is so of each item. -/
def areDistinct : List Json → Bool
  | [] => true
  | item :: rest => isDistinct item && areDistinct rest

/-- Whether this is so of the value of each member. -/
def valuesAreDistinct : List (String × Json) → Bool
  | [] => true
  | (_, value) :: rest => isDistinct value && valuesAreDistinct rest

end

/-- The check of a list is the check of each of its items. -/
theorem areDistinct_iff {items : List Json} :
    areDistinct items = true ↔ ∀ item ∈ items, item.isDistinct = true := by
  induction items with
  | nil => simp [areDistinct]
  | cons item rest inductionHypothesis => simp [areDistinct, inductionHypothesis]

/-- The check of the members is the check of each of their values. -/
theorem valuesAreDistinct_iff {members : Document} :
    valuesAreDistinct members = true ↔ ∀ member ∈ members, member.2.isDistinct = true := by
  induction members with
  | nil => simp [valuesAreDistinct]
  | cons member rest inductionHypothesis => simp [valuesAreDistinct, inductionHypothesis]

/-- The check decides whether the keys are distinct in each object, at every depth. -/
theorem isDistinct_iff (value : Json) : value.isDistinct = true ↔ value.Distinct := by
  induction value using induction with
  | null => exact iff_of_true rfl .null
  | bool value => exact iff_of_true rfl (.bool value)
  | number value => exact iff_of_true rfl (.number value)
  | string value => exact iff_of_true rfl (.string value)
  | array items each =>
    rw [isDistinct, areDistinct_iff, forall₂_congr each]
    constructor
    · exact .array
    · rintro ⟨⟩
      assumption
  | object members each =>
    rw [isDistinct, Bool.and_eq_true, decide_eq_true_iff, valuesAreDistinct_iff, forall₂_congr each]
    constructor
    · exact fun both => .object both.1 both.2
    · rintro ⟨⟩
      exact ⟨‹_›, ‹_›⟩

instance : DecidablePred Distinct := fun value => decidable_of_iff _ (isDistinct_iff value)

/-! ## Values that are read -/

/-- What an item becomes is what one of the items becomes. -/
theorem exists_of_mem_rereadItems? {items read : List Json} (reread : rereadItems? items = some read)
    {value : Json} (member : value ∈ read) : ∃ item ∈ items, item.reread? = some value := by
  induction items generalizing read with
  | nil =>
    obtain rfl := Option.some.inj reread
    cases member
  | cons item rest inductionHypothesis =>
    simp only [rereadItems?, bind, Option.bind_eq_some_iff] at reread
    obtain ⟨readItem, itemRead, readRest, restRead, same⟩ := reread
    obtain rfl := Option.some.inj same
    rcases List.mem_cons.mp member with rfl | later
    · exact ⟨item, List.mem_cons_self .., itemRead⟩
    · obtain ⟨other, inRest, otherRead⟩ := inductionHypothesis restRead later
      exact ⟨other, List.mem_cons_of_mem item inRest, otherRead⟩

/-- A regular value still holds each key once after it has been read from its text. -/
theorem Regular.distinct_reread {levels : Nat} {value read : Json} (regular : value.Regular levels)
    (reread : value.reread? = some read) : read.Distinct := by
  induction regular generalizing read with
  | null levels =>
    obtain rfl := Option.some.inj reread
    exact .null
  | bool levels value =>
    obtain rfl := Option.some.inj reread
    exact .bool value
  | string levels value =>
    obtain rfl := Option.some.inj reread
    exact .string value
  | number levels valid =>
    obtain ⟨number, -, rfl⟩ := Option.map_eq_some_iff.mp reread
    exact .number number
  | array each inductionHypothesis =>
    obtain ⟨items, itemsRead, rfl⟩ := Option.map_eq_some_iff.mp reread
    refine .array ?_
    intro value inItems
    obtain ⟨item, member, itemRead⟩ := exists_of_mem_rereadItems? itemsRead inItems
    exact inductionHypothesis item member itemRead
  | object keys each inductionHypothesis =>
    obtain ⟨members, membersRead, rfl⟩ := Option.map_eq_some_iff.mp reread
    have keysRead : (Keyed.keys members).Nodup := by
      rw [keys_rereadMembers? membersRead]
      exact keys
    refine .object keysRead ?_
    intro member inMembers
    have found := Keyed.get?_of_mem keysRead inMembers
    rw [get?_rereadMembers? membersRead, Option.bind_eq_some_iff] at found
    obtain ⟨value, held, valueRead⟩ := found
    exact inductionHypothesis (member.1, value) (Keyed.mem_of_get? held) valueRead

end DocumentGateway.Json

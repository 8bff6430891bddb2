import DocumentGateway.Proofs.Json.Distinct
import DocumentGateway.Proofs.Json.Order

/-!
# What values mean

The meaning of a value keeps nothing of how the value was written: a number is a place on the
real line, whatever its kind, and an object is a map from keys, without an order. Values whose
objects hold each key once mean the same exactly if their meanings are equal. So equality of
meaning is an equivalence relation on these values, although it looks up only the keys of its
first operand.
-/
namespace DocumentGateway.Json

/-- The meaning of a value. -/
inductive Meaning where
  | null
  | bool (value : Bool)
  | number (place : Int)
  | string (value : String)
  | array (items : List Meaning)
  | object (found : String → Option Meaning)

mutual

/-- What a value means. -/
def meaning : Json → Meaning
  | .null => .null
  | .bool value => .bool value
  | .number value => .number value.position
  | .string value => .string value
  | .array items => .array (meaningOfItems items)
  | .object members => .object (meaningOfMembers members)

/-- What the items of an array mean. -/
def meaningOfItems : List Json → List Meaning
  | [] => []
  | item :: rest => item.meaning :: meaningOfItems rest

/-- What is found in an object means. -/
def meaningOfMembers : List (String × Json) → String → Option Meaning
  | [], _ => none
  | (key, value) :: rest, asked =>
    if key = asked then some value.meaning else meaningOfMembers rest asked

end

/-- The meaning of a list is that of its items, in order. -/
theorem meaningOfItems_eq (items : List Json) : meaningOfItems items = items.map meaning := by
  induction items with
  | nil => rfl
  | cons item rest inductionHypothesis => rw [meaningOfItems, inductionHypothesis, List.map_cons]

/-- The meaning of members tells under each key the meaning of what stands there. -/
theorem meaningOfMembers_eq (members : Document) (key : String) :
    meaningOfMembers members key = (Keyed.get? key members).map meaning := by
  induction members with
  | nil => rfl
  | cons member rest inductionHypothesis =>
    rw [meaningOfMembers, Keyed.get?, inductionHypothesis]
    split <;> rfl

/-- Values with one meaning are of one kind. -/
theorem kindred_of_meaning_eq {a b : Json} (same : a.meaning = b.meaning) : Kindred a b := by
  cases a <;> cases b <;> first | constructor | simp [meaning] at same

/-- Objects have one meaning if they answer with values of one meaning under each key. -/
theorem meaning_object_eq_iff {as bs : Document} :
    (object as).meaning = (object bs).meaning ↔
      ∀ key, (Keyed.get? key as).map meaning = (Keyed.get? key bs).map meaning := by
  rw [meaning, meaning, Meaning.object.injEq, funext_iff]
  simp only [meaningOfMembers_eq]

section Parts

variable {as bs : Document}

/-- Objects that mean the same answer with values of one meaning, if this is so of values. A key
that is missing in the first object is missing in the second one too, because equality of meaning
can be turned round. -/
theorem meaning_object_eq_of_same (distinct : (object as).Distinct)
    (each : ∀ member ∈ as, ∀ other, (member.1, other) ∈ bs → member.2.same other = true →
      member.2.meaning = other.meaning)
    (alike : (object as).same (object bs) = true) : (object as).meaning = (object bs).meaning := by
  have forth := (same_object_iff.mp alike).2
  have back := (same_object_iff.mp (same_symm distinct alike)).2
  rw [meaning_object_eq_iff]
  intro key
  cases foundHere : Keyed.get? key as with
  | some value =>
    have member := Keyed.mem_of_get? foundHere
    obtain ⟨other, foundThere, here⟩ := forth (key, value) member
    rw [foundThere, Option.map_some, Option.map_some,
      each _ member other (Keyed.mem_of_get? foundThere) here]
  | none =>
    cases foundThere : Keyed.get? key bs with
    | none => rfl
    | some other =>
      obtain ⟨value, found, -⟩ := back (key, other) (Keyed.mem_of_get? foundThere)
      rw [foundHere] at found
      cases found

/-- Objects of one meaning mean the same, if this is so of values: they hold the same keys, and
so they are equally long. -/
theorem same_object_of_meaning_eq (keys : (Keyed.keys as).Nodup) (keysThere : (Keyed.keys bs).Nodup)
    (each : ∀ member ∈ as, ∀ other, (member.1, other) ∈ bs → member.2.meaning = other.meaning →
      member.2.same other = true)
    (alike : (object as).meaning = (object bs).meaning) :
    (object as).same (object bs) = true := by
  rw [meaning_object_eq_iff] at alike
  have sameKeys : ∀ key, key ∈ Keyed.keys as ↔ key ∈ Keyed.keys bs := by
    intro key
    have present := congrArg Option.isSome (alike key)
    rw [Option.isSome_map, Option.isSome_map] at present
    rw [← Keyed.contains_iff, ← Keyed.contains_iff, Keyed.contains, Keyed.contains, present]
  rw [same_object_iff]
  constructor
  · have sameLength := ((List.perm_ext_iff_of_nodup keys keysThere).mpr sameKeys).length_eq
    simpa [Keyed.keys] using sameLength
  · intro member inMembers
    have answer := alike member.1
    rw [Keyed.get?_of_mem keys inMembers, Option.map_some, eq_comm, Option.map_eq_some_iff] at answer
    obtain ⟨other, found, sameMeaning⟩ := answer
    exact ⟨other, found, each member inMembers other (Keyed.mem_of_get? found) sameMeaning.symm⟩

end Parts

/-- Lists of values mean the same place by place exactly if their meanings are equal, if this is so
of values. -/
theorem sameItems_iff_meanings_eq {items others : List Json}
    (each : ∀ item ∈ items, ∀ other ∈ others,
      (item.same other = true ↔ item.meaning = other.meaning)) :
    sameItems items others = true ↔ items.map meaning = others.map meaning := by
  induction items generalizing others with
  | nil => cases others <;> simp [sameItems]
  | cons item rest inductionHypothesis =>
    cases others with
    | nil => simp [sameItems]
    | cons other more =>
      have here := each item List.mem_cons_self other List.mem_cons_self
      have later := inductionHypothesis fun item member other inMore =>
        each item (List.mem_cons_of_mem _ member) other (List.mem_cons_of_mem _ inMore)
      rw [sameItems, Bool.and_eq_true, here, later, List.map_cons, List.map_cons, List.cons.injEq]

/-- Only values of one kind need to be looked at. -/
theorem same_iff_meaning_eq_of_kindred {a b : Json}
    (decided : Kindred a b → (a.same b = true ↔ a.meaning = b.meaning)) :
    a.same b = true ↔ a.meaning = b.meaning := by
  constructor
  · intro alike
    exact (decided (kindred_of_same alike)).mp alike
  · intro alike
    exact (decided (kindred_of_meaning_eq alike)).mpr alike

/-- Values that hold each key once mean the same exactly if they have one meaning. -/
theorem same_iff_meaning_eq {a b : Json} (distinct : a.Distinct) (distinctOther : b.Distinct) :
    a.same b = true ↔ a.meaning = b.meaning := by
  induction distinct generalizing b with
  | null | bool | number | string =>
    apply same_iff_meaning_eq_of_kindred
    intro kindred
    cases kindred
    simp [same, meaning]
  | @array items each inductionHypothesis =>
    apply same_iff_meaning_eq_of_kindred
    intro kindred
    cases kindred with
    | array _ others =>
      obtain - | - | - | - | eachOther := distinctOther
      rw [same, meaning, meaning, Meaning.array.injEq, meaningOfItems_eq, meaningOfItems_eq]
      apply sameItems_iff_meanings_eq
      intro item member other inOthers
      exact inductionHypothesis item member (eachOther other inOthers)
  | @object members keys each inductionHypothesis =>
    apply same_iff_meaning_eq_of_kindred
    intro kindred
    cases kindred with
    | object _ others =>
      obtain - | - | - | - | - | ⟨keysThere, eachOther⟩ := distinctOther
      constructor
      · apply meaning_object_eq_of_same (.object keys each)
        intro member inMembers other inOthers
        exact (inductionHypothesis member inMembers (eachOther _ inOthers)).mp
      · apply same_object_of_meaning_eq keys keysThere
        intro member inMembers other inOthers
        exact (inductionHypothesis member inMembers (eachOther _ inOthers)).mpr

/-- To mean the same is an equivalence relation on the values whose objects hold each key once:
it is to have one meaning. -/
theorem same_equivalence :
    (Equivalence fun a b : { value : Json // value.Distinct } => a.1.same b.1 = true) ∧
      ∀ a b : Json, a.Distinct → b.Distinct → (a.same b = true ↔ a.meaning = b.meaning) := by
  constructor
  · constructor
    · intro value
      exact same_refl value.2
    · intro a b alike
      exact same_symm a.2 alike
    · intro a b c first second
      exact same_trans first second
  · intro a b distinct distinctOther
    exact same_iff_meaning_eq distinct distinctOther

/-- An integer beyond the exact ones, a zero of either sign and members in another order, at both
levels: the values mean the same, in both orders and through a third one. -/
theorem same_equivalence_of_mixed_numbers :
    let a : Json := .object [("n", .number (.integer 9007199254740993)),
      ("o", .object [("x", .array [.number (.real 0.0)]), ("y", .null)])]
    let b : Json := .object [("o", .object [("y", .null), ("x", .array [.number (.integer 0)])]),
      ("n", .number (.real 9007199254740992.0))]
    let c : Json := .object [("o", .object [("x", .array [.number (.real (-0.0))]), ("y", .null)]),
      ("n", .number (.integer 9007199254740992))]
    (a.Distinct ∧ b.Distinct ∧ c.Distinct) ∧ a.same b = true ∧ b.same a = true ∧
      b.same c = true ∧ a.same c = true ∧ a.meaning = c.meaning := by
  intro a b c
  have distinctA : a.Distinct := by decide
  have distinctB : b.Distinct := by decide
  have distinctC : c.Distinct := by decide
  have first : a.same b = true := by decide +kernel
  have second : b.same c = true := by decide +kernel
  obtain ⟨equivalence, meanings⟩ := same_equivalence
  have back : b.same a = true :=
    equivalence.symm (x := ⟨a, distinctA⟩) (y := ⟨b, distinctB⟩) first
  have whole : a.same c = true :=
    equivalence.trans (x := ⟨a, distinctA⟩) (y := ⟨b, distinctB⟩) (z := ⟨c, distinctC⟩) first second
  exact ⟨⟨distinctA, distinctB, distinctC⟩, first, back, second, whole,
    (meanings a c distinctA distinctC).mp whole⟩

end DocumentGateway.Json

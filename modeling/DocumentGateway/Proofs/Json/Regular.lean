import DocumentGateway.Proofs.Json.NumberText
import DocumentGateway.Proofs.Keyed

/-!
# Regular values, and values after reading

A value that the program holds is regular: its numbers are within their bounds, its objects
hold each key once, and it is nested only so many levels. When the text of such a value is
read, each floating-point number in it becomes what its own text is read as, and nothing
else changes. So a value is read back exactly if all its floating-point numbers are.
-/
namespace DocumentGateway

/-- A floating-point number that its text is read as. -/
def Decimal.ReadsBack (x : Float) : Prop :=
  (Number.real x).reread? = some (.real x)

namespace Json

/-- A value as it can be held, nested at most so many levels. -/
inductive Regular : Nat → Json → Prop where
  | null (levels : Nat) : Regular levels .null
  | bool (levels : Nat) (value : Bool) : Regular levels (.bool value)
  | number (levels : Nat) {number : Number} (valid : number.Valid) : Regular levels (.number number)
  | string (levels : Nat) (value : String) : Regular levels (.string value)
  | array {levels : Nat} {items : List Json} (each : ∀ item ∈ items, Regular levels item) :
    Regular (levels + 1) (.array items)
  | object {levels : Nat} {members : Document} (distinct : (Keyed.keys members).Nodup)
    (each : ∀ member ∈ members, Regular levels member.2) : Regular (levels + 1) (.object members)

/-- More levels are allowed wherever fewer are. -/
theorem Regular.mono {levels more : Nat} {value : Json} (regular : value.Regular levels)
    (atMost : levels ≤ more) : value.Regular more := by
  induction regular generalizing more with
  | null levels => exact .null more
  | bool levels value => exact .bool more value
  | number levels valid => exact .number more valid
  | string levels value => exact .string more value
  | @array levels items each inductionHypothesis =>
    obtain ⟨more, rfl⟩ := Nat.exists_eq_add_of_le' (Nat.le_trans (Nat.le_add_left 1 levels) atMost)
    exact .array fun item member => inductionHypothesis item member (by omega)
  | @object levels members distinct each inductionHypothesis =>
    obtain ⟨more, rfl⟩ := Nat.exists_eq_add_of_le' (Nat.le_trans (Nat.le_add_left 1 levels) atMost)
    exact .object distinct fun member inMembers =>
      inductionHypothesis member inMembers (by omega)

mutual

/-- The floating-point numbers in a value. -/
def reals : Json → List Float
  | .number (.real x) => [x]
  | .array items => realsOfItems items
  | .object members => realsOfMembers members
  | _ => []

/-- The floating-point numbers in the items of an array. -/
def realsOfItems : List Json → List Float
  | [] => []
  | item :: rest => reals item ++ realsOfItems rest

/-- The floating-point numbers in the values of members. -/
def realsOfMembers : List (String × Json) → List Float
  | [] => []
  | (_, value) :: rest => reals value ++ realsOfMembers rest

end

mutual

/-- What a value becomes when each of its numbers is read from its text. -/
def reread? : Json → Option Json
  | .number n => n.reread?.map .number
  | .array items => (rereadItems? items).map .array
  | .object members => (rereadMembers? members).map .object
  | value => some value

/-- What the items of an array become. -/
def rereadItems? : List Json → Option (List Json)
  | [] => some []
  | item :: rest => do
    let item ← reread? item
    let rest ← rereadItems? rest
    some (item :: rest)

/-- What the members of an object become. Their keys stay. -/
def rereadMembers? : List (String × Json) → Option (List (String × Json))
  | [] => some []
  | (key, value) :: rest => do
    let value ← reread? value
    let rest ← rereadMembers? rest
    some ((key, value) :: rest)

end

/-- The floating-point numbers in a list are those in its items. -/
theorem mem_realsOfItems {x : Float} {items : List Json} :
    x ∈ realsOfItems items ↔ ∃ item ∈ items, x ∈ item.reals := by
  induction items with
  | nil => simp [realsOfItems]
  | cons item rest inductionHypothesis => simp [realsOfItems, inductionHypothesis]

/-- The floating-point numbers in an object are those in the values of its members. -/
theorem mem_realsOfMembers {x : Float} {members : Document} :
    x ∈ realsOfMembers members ↔ ∃ member ∈ members, x ∈ member.2.reals := by
  induction members with
  | nil => simp [realsOfMembers]
  | cons member rest inductionHypothesis => simp [realsOfMembers, inductionHypothesis]

/-- What holds of the floating-point numbers of an object holds of those of its values. -/
theorem forall_reals_object {property : Float → Prop} {members : Document} :
    (∀ x ∈ (Json.object members).reals, property x) ↔
      ∀ member ∈ members, ∀ x ∈ member.2.reals, property x := by
  simp only [reals, mem_realsOfMembers]
  constructor
  · exact fun all member inMembers x inValue => all x ⟨member, inMembers, inValue⟩
  · rintro all x ⟨member, inMembers, inValue⟩
    exact all member inMembers x inValue

/-- Items come back exactly if each of them does. -/
theorem rereadItems?_eq_self {items : List Json} :
    rereadItems? items = some items ↔ ∀ item ∈ items, item.reread? = some item := by
  induction items with
  | nil => simp [rereadItems?]
  | cons item rest inductionHypothesis =>
    rw [List.forall_mem_cons, ← inductionHypothesis, rereadItems?]
    cases reread? item with
    | none => simp [bind, Option.bind]
    | some read =>
      cases rereadItems? rest with
      | none => simp [bind, Option.bind]
      | some others => simp [bind, Option.bind]

/-- Members come back exactly if each of their values does. -/
theorem rereadMembers?_eq_self {members : Document} :
    rereadMembers? members = some members ↔
      ∀ member ∈ members, member.2.reread? = some member.2 := by
  induction members with
  | nil => simp [rereadMembers?]
  | cons member rest inductionHypothesis =>
    rw [List.forall_mem_cons, ← inductionHypothesis, rereadMembers?]
    cases reread? member.2 with
    | none => simp [bind, Option.bind]
    | some read =>
      cases rereadMembers? rest with
      | none => simp [bind, Option.bind]
      | some others => simp [bind, Option.bind, Prod.ext_iff]

/-- The keys of members stay as they are. -/
theorem keys_rereadMembers? {members read : Document} (reread : rereadMembers? members = some read) :
    Keyed.keys read = Keyed.keys members := by
  induction members generalizing read with
  | nil =>
    obtain rfl := Option.some.inj reread
    rfl
  | cons member rest inductionHypothesis =>
    rw [rereadMembers?] at reread
    cases value : reread? member.2 with
    | none => simp [value, bind, Option.bind] at reread
    | some readValue =>
      cases others : rereadMembers? rest with
      | none => simp [value, others, bind, Option.bind] at reread
      | some readRest =>
        obtain rfl : (member.1, readValue) :: readRest = read := by
          simpa [value, others, bind, Option.bind] using reread
        exact congrArg (member.1 :: ·) (inductionHypothesis others)

/-- The texts of members can be read exactly if the text of each value can. -/
theorem exists_rereadMembers? {members : Document} :
    (∃ read, rereadMembers? members = some read) ↔
      ∀ member ∈ members, ∃ value, member.2.reread? = some value := by
  induction members with
  | nil => simp [rereadMembers?]
  | cons member rest inductionHypothesis =>
    rw [List.forall_mem_cons, ← inductionHypothesis, rereadMembers?]
    cases reread? member.2 with
    | none => simp [bind, Option.bind]
    | some value => cases rereadMembers? rest <;> simp [bind, Option.bind]

/-- What is read under a key is what the text of its value is read as. -/
theorem get?_rereadMembers? {members read : Document} (reread : rereadMembers? members = some read)
    (key : String) : Keyed.get? key read = (Keyed.get? key members).bind reread? := by
  induction members generalizing read with
  | nil =>
    obtain rfl := Option.some.inj reread
    rfl
  | cons member rest inductionHypothesis =>
    obtain ⟨name, value⟩ := member
    simp only [rereadMembers?, bind, Option.bind_eq_some_iff] at reread
    obtain ⟨readValue, valueRead, readRest, restRead, same⟩ := reread
    obtain rfl := Option.some.inj same
    rw [Keyed.get?, Keyed.get?, inductionHypothesis restRead]
    split
    · exact valueRead.symm
    · rfl

/-- A regular value comes back exactly if all its floating-point numbers do. -/
theorem reread?_eq_self_iff {levels : Nat} {value : Json} (regular : value.Regular levels) :
    value.reread? = some value ↔ ∀ x ∈ value.reals, Decimal.ReadsBack x := by
  induction regular with
  | null levels => simp [reread?, reals]
  | bool levels value => simp [reread?, reals]
  | @number levels number valid =>
    cases number with
    | integer n => simp [reread?, reals, Number.reread?_integer valid]
    | real x => simp [reread?, reals, Decimal.ReadsBack]
  | string levels value => simp [reread?, reals]
  | @array levels items each inductionHypothesis =>
    have whole : (Json.array items).reread? = some (.array items) ↔
        rereadItems? items = some items := by simp [reread?]
    rw [whole, rereadItems?_eq_self]
    simp only [reals, mem_realsOfItems]
    constructor
    · rintro same x ⟨item, member, inItem⟩
      exact (inductionHypothesis item member).mp (same item member) x inItem
    · exact fun kept item member => (inductionHypothesis item member).mpr fun x inItem =>
        kept x ⟨item, member, inItem⟩
  | @object levels members distinct each inductionHypothesis =>
    have whole : (Json.object members).reread? = some (.object members) ↔
        rereadMembers? members = some members := by simp [reread?]
    rw [whole, rereadMembers?_eq_self, forall_reals_object]
    exact forall₂_congr inductionHypothesis

end Json

end DocumentGateway

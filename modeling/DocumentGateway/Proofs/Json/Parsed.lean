import DocumentGateway.Proofs.Json.RoundTrip

/-!
# Values that are read

What is read is regular, up to its numbers: an integer that is read lies within 64 bits, a
repeated key is held once, and nothing is nested deeper than there are levels. So a value
that is read within some levels is regular within these levels, or holds a floating-point
number that is not finite.
-/
namespace DocumentGateway

/-- A number that is read from its text is finite: others have no text. -/
theorem Decimal.ReadsBack.isFinite {x : Float} (back : ReadsBack x) : isFinite x = true := by
  by_contra infinite
  simp only [ReadsBack, Number.reread?, Json.printNumber, infinite] at back
  cases back

namespace Json

/-- A value whose floating-point numbers are finite. -/
def Finite (value : Json) : Prop :=
  ∀ x ∈ value.reals, Decimal.isFinite x = true

/-- A literal without a point is an integer within 64 bits or a floating-point number. -/
theorem valid_of_integerLiteral {negative : Bool} {digits : List Char} {number : Number}
    (read : integerLiteral negative digits = some number)
    (finite : Finite (.number number)) : number.Valid := by
  cases number with
  | real x => exact finite x (by simp [reals])
  | integer n =>
    unfold integerLiteral at read
    simp only [Nat.pow_eq] at read
    change -2 ^ 63 ≤ n ∧ n < 2 ^ 64
    split_ifs at read with signed beyond within
    · obtain ⟨x, -, same⟩ := Option.map_eq_some_iff.mp read
      cases same
    · obtain rfl := Number.integer.inj (Option.some.inj read)
      omega
    · obtain rfl := Number.integer.inj (Option.some.inj read)
      omega
    · obtain ⟨x, -, same⟩ := Option.map_eq_some_iff.mp read
      cases same

/-- A number that is read is valid if it is finite. -/
theorem valid_of_readNumber {text rest : List Char} {number : Number}
    (read : readNumber text = some (number, rest)) (finite : Finite (.number number)) :
    number.Valid := by
  have unsigned : ∀ negative text, readUnsigned negative text = some (number, rest) →
      number.Valid := by
    intro negative text read
    unfold readUnsigned at read
    dsimp only at read
    split at read
    · cases read
    · obtain ⟨⟨fraction, afterFraction⟩, -, read⟩ := Option.bind_eq_some_iff.mp read
      obtain ⟨⟨power, afterPower⟩, -, read⟩ := Option.bind_eq_some_iff.mp read
      split at read
      · obtain ⟨literal, found, same⟩ := Option.map_eq_some_iff.mp read
        obtain ⟨rfl, -⟩ := Prod.mk.inj same
        exact valid_of_integerLiteral found finite
      · obtain ⟨x, -, same⟩ := Option.map_eq_some_iff.mp read
        obtain ⟨rfl, -⟩ := Prod.mk.inj same
        exact finite _ (by simp [reals])
  unfold readNumber at read
  split at read <;> exact unsigned _ _ read

/-! ## Values -/

/-- How a value is read with one more token, up to the rest of the text. What is opened takes
one of the levels. -/
inductive ValueRead (fuel : Nat) (rest : List Char) : Nat → Json → Prop where
  | null (levels : Nat) : ValueRead fuel rest levels .null
  | bool (levels : Nat) (value : Bool) : ValueRead fuel rest levels (.bool value)
  | string (levels : Nat) (value : String) : ValueRead fuel rest levels (.string value)
  | number (levels : Nat) {text : List Char} {number : Number}
    (read : readNumber text = some (number, rest)) : ValueRead fuel rest levels (.number number)
  | emptyArray (levels : Nat) : ValueRead fuel rest (levels + 1) (.array [])
  | array {levels : Nat} {text : List Char} {items : List Json}
    (read : readItems fuel levels text = some (items, rest)) :
    ValueRead fuel rest (levels + 1) (.array items)
  | emptyObject (levels : Nat) : ValueRead fuel rest (levels + 1) (.object [])
  | object {levels : Nat} {text : List Char} {members : List (String × Json)}
    (read : readMembers fuel levels text = some (members, rest)) :
    ValueRead fuel rest (levels + 1) (.object (Keyed.ofList members))

/-- The cases are those of the character that a value begins with. -/
theorem valueRead_of_readValue {fuel levels : Nat} {text rest : List Char} {value : Json}
    (read : readValue (fuel + 1) levels text = some (value, rest)) :
    ValueRead fuel rest levels value := by
  rw [readValue] at read
  split at read
  case h_1 =>
    cases read
    exact .null levels
  case h_2 | h_3 =>
    cases read
    exact .bool levels _
  case h_4 =>
    obtain ⟨_, -, same⟩ := Option.map_eq_some_iff.mp read
    cases same
    exact .string levels _
  case h_5 =>
    cases levels with
    | zero => cases read
    | succ inner =>
      simp only at read
      split at read
      · cases read
        exact .emptyArray inner
      · obtain ⟨_, inside, same⟩ := Option.map_eq_some_iff.mp read
        cases same
        exact .array inside
  case h_6 =>
    cases levels with
    | zero => cases read
    | succ inner =>
      simp only at read
      split at read
      · cases read
        exact .emptyObject inner
      · obtain ⟨_, inside, same⟩ := Option.map_eq_some_iff.mp read
        cases same
        exact .object inside
  case h_7 =>
    obtain ⟨_, readHere, same⟩ := Option.map_eq_some_iff.mp read
    cases same
    exact .number levels readHere

/-- What is read with the tokens within some levels is regular within them, as far as it is
finite. -/
structure ReadsRegular (fuel : Nat) : Prop where
  value : ∀ {levels text rest value}, readValue fuel levels text = some (value, rest) →
    value.Finite → value.Regular levels
  items : ∀ {levels text rest items}, readItems fuel levels text = some (items, rest) →
    ∀ item ∈ items, item.Finite → item.Regular levels
  members : ∀ {levels text rest members}, readMembers fuel levels text = some (members, rest) →
    ∀ member ∈ members, member.2.Finite → member.2.Regular levels

namespace ReadsRegular

variable {fuel levels : Nat} {text rest : List Char}

/-- The members of an object that is read have different keys, and their values are read
within one level less. -/
theorem object_step (fewer : ReadsRegular fuel) {members : List (String × Json)}
    (read : readMembers fuel levels text = some (members, rest)) :
    (Keyed.keys (Keyed.ofList members)).Nodup ∧
      ∀ member ∈ Keyed.ofList members, member.2.Finite → member.2.Regular levels := by
  obtain ⟨distinct, given⟩ := Keyed.ofList_spec members
  exact ⟨distinct, fun member held => fewer.members read member (given member held)⟩

/-- A finite value that is read is regular, given that its parts are. -/
theorem value_step (fewer : ReadsRegular fuel) {value : Json}
    (read : readValue (fuel + 1) levels text = some (value, rest)) (finite : value.Finite) :
    value.Regular levels := by
  cases valueRead_of_readValue read with
  | null => exact .null levels
  | bool _ value => exact .bool levels value
  | string _ value => exact .string levels value
  | number _ numeral => exact .number levels (valid_of_readNumber numeral finite)
  | emptyArray => exact .array fun item member => absurd member List.not_mem_nil
  | array inside =>
    exact .array fun item member => fewer.items inside item member fun x inItem =>
      finite x (mem_realsOfItems.mpr ⟨item, member, inItem⟩)
  | emptyObject => exact .object List.nodup_nil fun member held => absurd held List.not_mem_nil
  | object inside =>
    obtain ⟨distinct, each⟩ := fewer.object_step inside
    exact .object distinct fun member held =>
      each member held (forall_reals_object.mp finite member held)

/-- The finite ones among the items that are read are regular, one item after another. -/
theorem items_step (fewer : ReadsRegular fuel) {items : List Json}
    (read : readItems (fuel + 1) levels text = some (items, rest)) :
    ∀ item ∈ items, item.Finite → item.Regular levels := by
  rw [readItems] at read
  split at read
  · cases read
  · rename_i first afterFirst firstRead
    split at read
    · obtain ⟨⟨others, after⟩, othersRead, same⟩ := Option.map_eq_some_iff.mp read
      obtain ⟨rfl, -⟩ := Prod.mk.inj same
      exact List.forall_mem_cons.mpr ⟨fewer.value firstRead, fewer.items othersRead⟩
    · obtain ⟨rfl, -⟩ := Prod.mk.inj (Option.some.inj read)
      exact List.forall_mem_singleton.mpr (fewer.value firstRead)
    · cases read

/-- The finite ones among the values of the members that are read are regular. -/
theorem members_step (fewer : ReadsRegular fuel) {members : Document}
    (read : readMembers (fuel + 1) levels text = some (members, rest)) :
    ∀ member ∈ members, member.2.Finite → member.2.Regular levels := by
  rw [readMembers] at read
  split at read
  · split at read
    · cases read
    · split at read
      · split at read
        · cases read
        · rename_i first afterFirst firstRead
          split at read
          · obtain ⟨⟨others, after⟩, othersRead, same⟩ := Option.map_eq_some_iff.mp read
            obtain ⟨rfl, -⟩ := Prod.mk.inj same
            exact List.forall_mem_cons.mpr ⟨fewer.value firstRead, fewer.members othersRead⟩
          · obtain ⟨rfl, -⟩ := Prod.mk.inj (Option.some.inj read)
            exact List.forall_mem_singleton.mpr (fewer.value firstRead)
          · cases read
      · cases read
  · cases read

end ReadsRegular

/-- Whatever is read is regular as far as it is finite. The induction is on the fuel, which every
part has less of. -/
theorem readsRegular (fuel : Nat) : ReadsRegular fuel := by
  induction fuel with
  | zero => constructor <;> simp [readValue, readItems, readMembers]
  | succ fuel fewer =>
    exact ⟨fun read finite => fewer.value_step read finite, fun read => fewer.items_step read,
      fun read => fewer.members_step read⟩

/-- The members of an object that is read have different keys, and the finite ones among their
values are regular one level further down. -/
theorem members_of_ofText? {text : String} {members : Document}
    (read : ofText? text = some (.object members)) :
    (Keyed.keys members).Nodup ∧
      ∀ member ∈ members, member.2.Finite → member.2.Regular (maxDepth - 1) := by
  rw [ofText?, parse?] at read
  split at read
  · rename_i value rest readHere
    split at read
    · obtain rfl := Option.some.inj read
      cases valueRead_of_readValue readHere with
      | emptyObject => exact ⟨List.nodup_nil, fun member held => absurd held List.not_mem_nil⟩
      | object inside => exact (readsRegular _).object_step inside
    · cases read
  · cases read

end Json

end DocumentGateway

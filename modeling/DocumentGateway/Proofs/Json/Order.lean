import DocumentGateway.Json.Order
import DocumentGateway.Proofs.Keyed
import Mathlib.Data.List.Forall2
import Mathlib.Order.Basic

/-!
# Laws of equality and order of values

The order of values is a total preorder. Lists and objects are compared place by place, so
the laws are carried from the parts to the whole: three values that do not descend compare,
the first with the last, as the two steps between them do one after the other, and this
passes through every lexicographic product.

Equality of meaning does not look at the order of members. It is transitive as it stands.
It is reflexive and symmetric only because a value holds each key of an object once: an object
whose members all have a counterpart in another one of the same length leaves none over there.
-/
namespace DocumentGateway.Json

/-- What holds of a value as soon as it holds of its parts holds of every value. -/
@[elab_as_elim]
theorem induction {motive : Json → Prop} (null : motive .null)
    (bool : ∀ value, motive (.bool value)) (number : ∀ value, motive (.number value))
    (string : ∀ value, motive (.string value))
    (array : ∀ items, (∀ item ∈ items, motive item) → motive (.array items))
    (object : ∀ members : Document, (∀ member ∈ members, motive member.2) →
      motive (.object members)) : ∀ value, motive value
  | .null => null
  | .bool value => bool value
  | .number value => number value
  | .string value => string value
  | .array items => array items fun item _ =>
    induction null bool number string array object item
  | .object members => object members fun member _ =>
    induction null bool number string array object member.2
termination_by value => sizeOf value
decreasing_by
  · decreasing_tactic
  · rename_i inMembers
    have smaller := List.sizeOf_lt_of_mem inMembers
    obtain ⟨key, value⟩ := member
    simp only [Prod.mk.sizeOf_spec] at smaller
    simp only [Json.object.sizeOf_spec]
    omega

/-- Two values of one kind. -/
inductive Kindred : Json → Json → Prop where
  | null : Kindred .null .null
  | bool (a b : Bool) : Kindred (.bool a) (.bool b)
  | number (a b : Number) : Kindred (.number a) (.number b)
  | string (a b : String) : Kindred (.string a) (.string b)
  | array (as bs : List Json) : Kindred (.array as) (.array bs)
  | object (as bs : Document) : Kindred (.object as) (.object bs)

/-- Values of one rank are values of one kind. -/
theorem kindred_of_kindRank_eq {a b : Json} (same : a.kindRank = b.kindRank) : Kindred a b := by
  cases a <;> cases b <;> first | constructor | cases same

/-- What holds of two values of different kinds, and of two of the same kind as soon as it holds
of the parts of the first one with any other value, holds of any two values. -/
@[elab_as_elim]
theorem inductionPairs {motive : Json → Json → Prop}
    (unlike : ∀ {a b : Json}, a.kindRank ≠ b.kindRank → motive a b)
    (null : motive .null .null) (bool : ∀ a b, motive (.bool a) (.bool b))
    (number : ∀ a b, motive (.number a) (.number b))
    (string : ∀ a b, motive (.string a) (.string b))
    (array : ∀ as bs, (∀ item ∈ as, ∀ other, motive item other) → motive (.array as) (.array bs))
    (object : ∀ as bs : Document, (∀ member ∈ as, ∀ other, motive member.2 other) →
      motive (.object as) (.object bs)) (a b : Json) : motive a b := by
  have enough : ∀ a, (∀ b, Kindred a b → motive a b) → ∀ b, motive a b := by
    intro a alike b
    by_cases same : a.kindRank = b.kindRank
    · exact alike b (kindred_of_kindRank_eq same)
    · exact unlike same
  induction a using induction generalizing b with
  | null =>
    apply enough
    rintro _ ⟨⟩
    exact null
  | bool a =>
    apply enough
    rintro _ ⟨⟩
    exact bool a _
  | number a =>
    apply enough
    rintro _ ⟨⟩
    exact number a _
  | string a =>
    apply enough
    rintro _ ⟨⟩
    exact string a _
  | array as each =>
    apply enough
    rintro _ ⟨⟩
    exact array as _ each
  | object as each =>
    apply enough
    rintro _ ⟨⟩
    exact object as _ each

/-! ## The total order -/

/-- The third comparison is made of two others, if neither of these descends. -/
def Composes (first second whole : Ordering) : Prop :=
  first ≠ .gt → second ≠ .gt → whole = first.then second

/-- The comparisons of a lawful order compose. -/
theorem composes_of_transCmp {α : Type} {order : α → α → Ordering} [Std.TransCmp order]
    (a b c : α) : Composes (order a b) (order b c) (order a c) := by
  intro first second
  cases ab : order a b with
  | gt => exact absurd ab first
  | eq => exact Std.TransCmp.congr_left ab
  | lt => exact Std.TransCmp.lt_of_lt_of_isLE ab (Ordering.isLE_iff_ne_gt.mpr second)

/-- Comparisons that compose do so in a lexicographic product. -/
theorem Composes.then {first second whole first' second' whole' : Ordering}
    (heads : Composes first second whole) (rests : Composes first' second' whole') :
    Composes (first.then first') (second.then second') (whole.then whole') := by
  intro ascends ascends'
  cases first <;> cases second <;> simp_all [Composes]
  cases first' <;> simp_all

/-! ### Lists and objects place by place -/

section Lexicographic

variable {α : Type} {order : α → α → Ordering} {as : List α}

/-- Exchanging two lists turns their comparison round if this is so for the things in the first
one. -/
theorem compareLex_swap (each : ∀ a ∈ as, ∀ b, order a b = (order b a).swap) (bs : List α) :
    as.compareLex order bs = (bs.compareLex order as).swap := by
  induction as generalizing bs with
  | nil => cases bs <;> rfl
  | cons a as inductionHypothesis =>
    cases bs with
    | nil => rfl
    | cons b bs =>
      obtain ⟨here, later⟩ := List.forall_mem_cons.mp each
      rw [List.compareLex_cons_cons, List.compareLex_cons_cons, Ordering.swap_then, ← here,
        ← inductionHypothesis later]

/-- Three lists compose if the things in the first one do with any two others. -/
theorem compareLex_composes
    (each : ∀ a ∈ as, ∀ b c, Composes (order a b) (order b c) (order a c)) (bs cs : List α) :
    Composes (as.compareLex order bs) (bs.compareLex order cs) (as.compareLex order cs) := by
  induction as generalizing bs cs with
  | nil => cases bs <;> cases cs <;> simp [Composes, List.compareLex]
  | cons a as inductionHypothesis =>
    cases bs with
    | nil => simp [Composes, List.compareLex]
    | cons b bs =>
      cases cs with
      | nil => simp [Composes, List.compareLex]
      | cons c cs =>
        obtain ⟨here, later⟩ := List.forall_mem_cons.mp each
        simp only [List.compareLex_cons_cons]
        exact (here b c).then (inductionHypothesis later bs cs)

end Lexicographic

/-- Arrays are compared lexicographically, by the order of their items. -/
theorem compareItems_eq (as bs : List Json) : compareItems as bs = as.compareLex compare bs := by
  induction as generalizing bs with
  | nil => cases bs <;> simp [compareItems, List.compareLex]
  | cons a as inductionHypothesis =>
    cases bs with
    | nil => simp [compareItems, List.compareLex]
    | cons b bs => rw [compareItems, inductionHypothesis, List.compareLex_cons_cons]

/-- Members compare by the key before the value. -/
def compareMember (left right : String × Json) : Ordering :=
  (Ord.compare left.1 right.1).then (compare left.2 right.2)

/-- Objects are compared lexicographically, by the order of their members as they stand. -/
theorem compareMembers_eq (as bs : Document) :
    compareMembers as bs = as.compareLex compareMember bs := by
  induction as generalizing bs with
  | nil => cases bs <;> simp [compareMembers, List.compareLex]
  | cons a as inductionHypothesis =>
    cases bs with
    | nil => simp [compareMembers, List.compareLex]
    | cons b bs =>
      rw [compareMembers, inductionHypothesis, List.compareLex_cons_cons, compareMember]

/-! ### Values -/

/-- Values of different kinds compare as their kinds. -/
theorem compare_of_kindRank_ne {a b : Json} (different : a.kindRank ≠ b.kindRank) :
    compare a b = Ord.compare a.kindRank b.kindRank := by
  cases a <;> cases b <;> first | rfl | exact absurd rfl different

/-- A value of a lower kind comes before one of a higher kind. -/
theorem compare_of_kindRank_lt {a b : Json} (lower : a.kindRank < b.kindRank) :
    compare a b = .lt := by
  rw [compare_of_kindRank_ne (Nat.ne_of_lt lower), Nat.compare_eq_lt]
  exact lower

/-- Values that do not descend do not descend in their kinds. -/
theorem kindRank_le_of_compare {a b : Json} (ascends : compare a b ≠ .gt) :
    a.kindRank ≤ b.kindRank := by
  by_contra descends
  have higher : b.kindRank < a.kindRank := Nat.lt_of_not_le descends
  apply ascends
  rw [compare_of_kindRank_ne (Nat.ne_of_gt higher), Nat.compare_eq_gt]
  exact higher

/-- Exchanging two values turns their comparison round. -/
theorem compare_swap (a b : Json) : compare a b = (compare b a).swap := by
  induction a, b using inductionPairs with
  | unlike different =>
    rw [compare_of_kindRank_ne different, compare_of_kindRank_ne (Ne.symm different)]
    exact Std.OrientedOrd.eq_swap
  | null => rfl
  | bool | number | string => exact Std.OrientedOrd.eq_swap
  | array as bs each =>
    rw [compare, compare, compareItems_eq, compareItems_eq]
    exact compareLex_swap each bs
  | object as bs each =>
    rw [compare, compare, compareMembers_eq, compareMembers_eq]
    apply compareLex_swap
    intro member inMembers other
    rw [compareMember, compareMember, Ordering.swap_then, ← each member inMembers,
      ← Std.OrientedOrd.eq_swap]

/-- Values of which two neighbours differ in kind compose: the kinds only ascend, so the first value
is of a lower kind than the last one. -/
theorem compare_composes_of_unlike {a b c : Json}
    (different : a.kindRank ≠ b.kindRank ∨ b.kindRank ≠ c.kindRank) :
    Composes (compare a b) (compare b c) (compare a c) := by
  intro first second
  have lower := kindRank_le_of_compare first
  have higher := kindRank_le_of_compare second
  rw [compare_of_kindRank_lt (a := a) (b := c) (by omega)]
  by_cases early : a.kindRank < b.kindRank
  · rw [compare_of_kindRank_lt early]
    rfl
  · have late : b.kindRank < c.kindRank := by omega
    rw [compare_of_kindRank_lt late]
    cases ab : compare a b with
    | lt | eq => rfl
    | gt => exact absurd ab first

/-- The kind of the last value need not be looked at where it differs. -/
theorem compare_composes_of_kindred {a b : Json}
    (kindred : ∀ c, Kindred b c → Composes (compare a b) (compare b c) (compare a c)) (c : Json) :
    Composes (compare a b) (compare b c) (compare a c) := by
  by_cases same : b.kindRank = c.kindRank
  · exact kindred c (kindred_of_kindRank_eq same)
  · exact compare_composes_of_unlike (.inr same)

/-- Three values that do not descend compare, the first with the last, as the two steps do. -/
theorem compare_composes (a b c : Json) : Composes (compare a b) (compare b c) (compare a c) := by
  induction a, b using inductionPairs generalizing c with
  | unlike different => exact compare_composes_of_unlike (.inl different)
  | null =>
    apply compare_composes_of_kindred
    rintro _ ⟨⟩ - -
    rfl
  | bool | number | string =>
    apply compare_composes_of_kindred
    rintro _ ⟨⟩
    simp only [compare]
    exact composes_of_transCmp _ _ _
  | array as bs each =>
    apply compare_composes_of_kindred
    rintro _ ⟨⟩
    simp only [compare, compareItems_eq]
    exact compareLex_composes each bs _
  | object as bs each =>
    apply compare_composes_of_kindred
    rintro _ ⟨⟩
    simp only [compare, compareMembers_eq]
    apply compareLex_composes
    intro member inMembers left right
    exact (composes_of_transCmp member.1 left.1 right.1).then (each member inMembers left.2 right.2)

instance : Std.TransCmp compare where
  eq_swap := compare_swap _ _
  isLE_trans {a b c} first second := by
    rw [Ordering.isLE_iff_ne_gt] at first second ⊢
    rw [compare_composes a b c first second]
    cases ab : compare a b with
    | lt => simp
    | eq => simpa [ab] using second
    | gt => exact absurd ab first

/-- A missing value compares as null does. -/
theorem compareOptional_eq (left right : Option Json) :
    compareOptional left right = compare (left.getD .null) (right.getD .null) := by
  cases left with
  | none =>
    cases right with
    | none => rfl
    | some value => cases value <;> rfl
  | some value =>
    cases right with
    | none => cases value <;> rfl
    | some other => rfl

instance : Std.TransCmp compareOptional := by
  have same : compareOptional =
      Ordering.byKey (fun value : Option Json => value.getD .null) compare := by
    funext left right
    exact compareOptional_eq left right
  rw [same]
  infer_instance

/-! ## Equality of meaning -/

/-- A value whose objects hold each key once, at any depth. -/
inductive Distinct : Json → Prop where
  | null : Distinct .null
  | bool (value : Bool) : Distinct (.bool value)
  | number (value : Number) : Distinct (.number value)
  | string (value : String) : Distinct (.string value)
  | array {items : List Json} (each : ∀ item ∈ items, Distinct item) : Distinct (.array items)
  | object {members : Document} (keys : (Keyed.keys members).Nodup)
    (each : ∀ member ∈ members, Distinct member.2) : Distinct (.object members)

/-- Values that mean the same are of one kind. -/
theorem kindred_of_same {a b : Json} (alike : a.same b = true) : Kindred a b := by
  cases a <;> cases b <;> first | constructor | simp [same] at alike

/-- Arrays mean the same if their items do, place by place. -/
theorem sameItems_iff {as bs : List Json} :
    sameItems as bs = true ↔ List.Forall₂ (fun a b => a.same b = true) as bs := by
  induction as generalizing bs with
  | nil => cases bs <;> simp [sameItems]
  | cons a as inductionHypothesis =>
    cases bs with
    | nil => simp [sameItems]
    | cons b bs => simp [sameItems, inductionHypothesis]

/-- Members mean no more than others if each of them is found there under its key with the same
meaning. -/
theorem sameMembers_iff {as bs : Document} :
    sameMembers as bs = true ↔
      ∀ member ∈ as, ∃ other, Keyed.get? member.1 bs = some other ∧ member.2.same other = true := by
  induction as with
  | nil => simp [sameMembers]
  | cons member rest inductionHypothesis =>
    rw [sameMembers, Bool.and_eq_true, inductionHypothesis, List.forall_mem_cons]
    cases Keyed.get? member.1 bs <;> simp

/-- Objects mean the same if they are equally long and each member of the first one has a
counterpart in the second one. -/
theorem same_object_iff {as bs : Document} :
    (object as).same (.object bs) = true ↔ as.length = bs.length ∧
      ∀ member ∈ as, ∃ other, Keyed.get? member.1 bs = some other ∧ member.2.same other = true := by
  rw [same, Bool.and_eq_true, beq_iff_eq, sameMembers_iff]

/-- A value means the same as itself if its keys are distinct: under each of them stands what is
found under it. -/
theorem same_refl {value : Json} (distinct : value.Distinct) : value.same value = true := by
  induction distinct with
  | null | bool | number | string => simp [same]
  | array each inductionHypothesis =>
    rw [same, sameItems_iff]
    exact List.forall₂_same.mpr inductionHypothesis
  | object keys each inductionHypothesis =>
    rw [same_object_iff]
    refine ⟨rfl, ?_⟩
    intro member inMembers
    exact ⟨member.2, Keyed.get?_of_mem keys inMembers, inductionHypothesis member inMembers⟩

/-- Sameness of lists is transitive, as far as it is on the items of the first one. -/
theorem sameItems_trans {as bs cs : List Json}
    (each : ∀ a ∈ as, ∀ {b c : Json}, a.same b = true → b.same c = true → a.same c = true)
    (first : sameItems as bs = true) (second : sameItems bs cs = true) :
    sameItems as cs = true := by
  rw [sameItems_iff] at first second ⊢
  induction first generalizing cs with
  | nil => exact second
  | cons ab _ inductionHypothesis =>
    obtain ⟨here, later⟩ := List.forall_mem_cons.mp each
    cases second with
    | cons bc second => exact .cons (here ab bc) (inductionHypothesis later second)

/-- Sameness is transitive, without any condition on the keys. -/
theorem same_trans {a b c : Json} (first : a.same b = true) (second : b.same c = true) :
    a.same c = true := by
  induction a using induction generalizing b c with
  | null | bool | number | string =>
    cases kindred_of_same first
    cases kindred_of_same second
    simp_all [same]
  | array items each =>
    cases kindred_of_same first
    cases kindred_of_same second
    exact sameItems_trans each first second
  | object members each =>
    cases kindred_of_same first
    cases kindred_of_same second
    rw [same_object_iff] at first second ⊢
    refine ⟨first.1.trans second.1, ?_⟩
    intro member inMembers
    obtain ⟨other, found, here⟩ := first.2 member inMembers
    obtain ⟨third, foundThere, there⟩ := second.2 (member.1, other) (Keyed.mem_of_get? found)
    exact ⟨third, foundThere, each member inMembers here there⟩

/-- Sameness of lists is symmetric, as far as it is on the items of the first one. -/
theorem sameItems_symm {as bs : List Json}
    (each : ∀ a ∈ as, ∀ {b : Json}, a.same b = true → b.same a = true)
    (alike : sameItems as bs = true) : sameItems bs as = true := by
  rw [sameItems_iff] at alike ⊢
  induction alike with
  | nil => exact .nil
  | cons ab _ inductionHypothesis =>
    obtain ⟨here, later⟩ := List.forall_mem_cons.mp each
    exact .cons (here ab) (inductionHypothesis later)

/-- Equality of meaning can be turned round if the keys of the first value are distinct: those of
the second one then are the same. -/
theorem same_symm {a b : Json} (distinct : a.Distinct) (alike : a.same b = true) :
    b.same a = true := by
  induction distinct generalizing b with
  | null | bool | number | string =>
    cases kindred_of_same alike
    simp_all [same]
  | @array items each inductionHypothesis =>
    cases kindred_of_same alike
    exact sameItems_symm inductionHypothesis alike
  | @object members keys each inductionHypothesis =>
    cases kindred_of_same alike with
    | object _ others =>
      rw [same_object_iff] at alike ⊢
      obtain ⟨sameLength, counterpart⟩ := alike
      have among : Keyed.keys members ⊆ Keyed.keys others := by
        intro key inKeys
        obtain ⟨member, inMembers, rfl⟩ := List.mem_map.mp inKeys
        obtain ⟨other, found, -⟩ := counterpart member inMembers
        exact List.mem_map.mpr ⟨(member.1, other), Keyed.mem_of_get? found, rfl⟩
      have sameKeys := Keyed.keys_perm_of_subset keys sameLength among
      refine ⟨sameLength.symm, ?_⟩
      intro other inOthers
      obtain ⟨member, inMembers, sameKey⟩ :=
        List.mem_map.mp (sameKeys.mem_iff.mpr (List.mem_map_of_mem inOthers))
      obtain ⟨value, found, here⟩ := counterpart member inMembers
      rw [sameKey, Keyed.get?_of_mem (sameKeys.nodup_iff.mp keys) inOthers] at found
      obtain rfl := Option.some.inj found
      refine ⟨member.2, ?_, inductionHypothesis member inMembers here⟩
      rw [← sameKey]
      exact Keyed.get?_of_mem keys inMembers

end DocumentGateway.Json

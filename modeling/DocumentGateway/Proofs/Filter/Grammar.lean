import DocumentGateway.Filter.Reader
import DocumentGateway.Proofs.Search.Satisfaction

/-!
# The language of filters

The filter documents of the store as rules of a grammar, and what each of them says of a
document, both given by direct recursion on the JSON value and without a parsed filter
in between. The rules count the clauses and negations that stand around a filter
document or an object of operators; no more than 32 may do so.
-/
namespace DocumentGateway

/-! ## Options of patterns -/

/-- The options beside a pattern: the text under `$options`. -/
def optionsOf (members : Document) : Option String :=
  (Keyed.get? "$options" members).bind Json.string?

/-- The letters of the options. -/
def optionLetters (options : Option String) : List Char :=
  (options.getD "").toList

/-- The pattern flags that option letters stand for. -/
def flagsOf (letters : List Char) : Pattern.Flags :=
  { anyCase := letters.contains 'i', lines := letters.contains 'm',
    dotAll := letters.contains 's', spaced := letters.contains 'x' }

/-- The pattern that a text compiles to under the options, if it does. -/
def compiled? (options : Option String) (text : String) : Option Pattern :=
  Pattern.read? (flagsOf (optionLetters options)) text.toList

/-! ## Grammar -/

/-- The value is none that is taken for operators: no object with a marked member. -/
def Json.Unmarked (value : Json) : Prop :=
  ∀ members, value = .object members → ∀ member ∈ members, isOperatorKey member.1 = false

mutual

/-- The value is a filter document, and `depth` clauses or negations stand around it. -/
inductive FilterDocument : Nat → Json → Prop where
  | object {depth : Nat} {members : Document} (shallow : depth ≤ 32)
      (proper : ∀ member ∈ members, FilterMember depth member.1 member.2) :
      FilterDocument depth (.object members)

/-- The key and the value may stand in a filter document: a combination of filter
documents, a value that a field has to equal, or operators on a field. -/
inductive FilterMember : Nat → String → Json → Prop where
  | clauses {depth : Nat} {operator : String} {items : List Json}
      (combines : operator ∈ ["$and", "$or", "$nor"]) (nonempty : items ≠ [])
      (proper : ∀ item ∈ items, FilterDocument (depth + 1) item) :
      FilterMember depth operator (.array items)
  | value {depth : Nat} {path : String} {value : Json} (plain : isOperatorKey path = false)
      (unmarked : value.Unmarked) : FilterMember depth path value
  | operators {depth : Nat} {path : String} {members : Document}
      (plain : isOperatorKey path = false) (proper : OperatorObject depth members) :
      FilterMember depth path (.object members)

/-- The members form an object of operators. Options have to be a text beside a pattern. -/
inductive OperatorObject : Nat → Document → Prop where
  | members {depth : Nat} {members : Document} (shallow : depth ≤ 32) (nonempty : members ≠ [])
      (options : ∀ value, Keyed.get? "$options" members = some value →
        (∃ letters, value = .string letters) ∧ Keyed.contains "$regex" members = true)
      (proper : ∀ member ∈ members,
        OperatorMember depth (optionsOf members) member.1 member.2) :
      OperatorObject depth members

/-- The operator and its operand may stand in an object of operators with the options. -/
inductive OperatorMember : Nat → Option String → String → Json → Prop where
  | comparison {depth : Nat} {options : Option String} {operator : String} {operand : Json}
      (compares : operator ∈ ["$eq", "$ne", "$gt", "$gte", "$lt", "$lte", "$exists"]) :
      OperatorMember depth options operator operand
  | membership {depth : Nat} {options : Option String} {operator : String} {items : List Json}
      (selects : operator ∈ ["$in", "$nin"]) :
      OperatorMember depth options operator (.array items)
  | pattern {depth : Nat} {options : Option String} {operator text : String}
      (named : operator = "$regex")
      (known : ∀ letter ∈ optionLetters options, letter ∈ ['i', 'm', 's', 'x'])
      (compiles : (compiled? options text).isSome = true) :
      OperatorMember depth options operator (.string text)
  | options {depth : Nat} {options : Option String} {operator : String} {operand : Json}
      (named : operator = "$options") : OperatorMember depth options operator operand
  | negation {depth : Nat} {options : Option String} {operator : String} {members : Document}
      (named : operator = "$not") (proper : OperatorObject (depth + 1) members) :
      OperatorMember depth options operator (.object members)

end

/-! ## Meaning -/

namespace FilterMeaning

/-- Whether the value at a path equals the operand or has it as an item. A missing value
equals null only. -/
def equals (operand : Json) : Option Json → Bool
  | none => (operand matches .null)
  | target => Search.passes (fun value => value.same operand) target

/-- Whether the value at a path, or an item of it, is of the kind of the bound and stands
to it in an accepted order. -/
def compares (accepted : Ordering → Bool) (bound : Json) (target : Option Json) : Bool :=
  Search.passes (fun value => (value.compareSameKind bound).any accepted) target

/-- Whether the value at a path equals, or has as an item, one of the listed operands. -/
def equalsSome : Json → Option Json → Bool
  | .array operands, target => operands.any fun operand => equals operand target
  | _, _ => false

/-- Whether the value at a path, or an item of it, is a text that the pattern matches. -/
def fits (options : Option String) : Json → Option Json → Bool
  | .string text, target =>
    (compiled? options text).any fun pattern => Search.passes (fitsText pattern) target
  | _, _ => false

mutual

/-- Whether the value at a path satisfies every operator of an object. -/
def operatorsHold (options : Option String) : List (String × Json) → Option Json → Bool
  | [], _ => true
  | (operator, operand) :: rest, target =>
    (match operator with
      | "$eq" => equals operand target
      | "$ne" => !equals operand target
      | "$gt" => compares (· == .gt) operand target
      | "$gte" => compares (· != .lt) operand target
      | "$lt" => compares (· == .lt) operand target
      | "$lte" => compares (· != .gt) operand target
      | "$in" => equalsSome operand target
      | "$nin" => !equalsSome operand target
      | "$exists" => target.isSome == truth operand
      | "$regex" => fits options operand target
      | "$not" => !operandHolds operand target
      | _ => true) && operatorsHold options rest target

/-- Whether the value at a path satisfies an operand that is itself an object of
operators. -/
def operandHolds : Json → Option Json → Bool
  | .object members, target => operatorsHold (optionsOf members) members target
  | _, _ => false

end

/-- Whether the value at a path satisfies what a field is held to. -/
def conditionHolds : Json → Option Json → Bool
  | .object members, target =>
    if members.any fun member => isOperatorKey member.1 then
      operatorsHold (optionsOf members) members target
    else equals (.object members) target
  | value, target => equals value target

mutual

/-- Whether a document satisfies a filter document. -/
def holds (document : Document) : Json → Bool
  | .object members => membersHold document members
  | _ => false

/-- Whether a document satisfies every member of a filter document. -/
def membersHold (document : Document) : List (String × Json) → Bool
  | [] => true
  | (key, value) :: rest =>
    (match key with
      | "$and" => (clauseTruths document value).all id
      | "$or" => (clauseTruths document value).any id
      | "$nor" => !(clauseTruths document value).any id
      | path => conditionHolds value (Json.resolve document path)) && membersHold document rest

/-- Which of the clauses in an array a document satisfies. -/
def clauseTruths (document : Document) : Json → List Bool
  | .array items => truths document items
  | _ => []

/-- Which filter documents of a list a document satisfies. -/
def truths (document : Document) : List Json → List Bool
  | [] => []
  | item :: rest => holds document item :: truths document rest

end

end FilterMeaning

end DocumentGateway

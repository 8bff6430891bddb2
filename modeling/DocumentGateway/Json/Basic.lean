import DocumentGateway.Keyed
import DocumentGateway.Decimal.Binary

/-!
# JSON values

A value keeps what its text showed: integers and floating-point numbers are different
kinds of number, and the members of an object keep their order. Objects built by this
library hold each key once.
-/
namespace DocumentGateway

/-- A number as written: an integer literal within 64 bits, or any other number. -/
inductive Number where
  | integer (value : Int)
  | real (value : Float)

/-- A JSON value. -/
inductive Json where
  | null
  | bool (value : Bool)
  | number (value : Number)
  | string (value : String)
  | array (items : List Json)
  | object (members : List (String × Json))

/-- A document is the list of members of a JSON object. -/
abbrev Document := List (String × Json)

namespace Number

/-- The floating-point number nearest to a number. -/
def toFloat : Number → Float
  | .integer n => Float.ofInt n
  | .real x => x

/-- The place of a number on the real line. -/
def position (n : Number) : Int :=
  Decimal.position n.toFloat

/-- The place of a number in the total order. -/
def rank (n : Number) : Int :=
  Decimal.rank n.toFloat

/-- The number as a count: an integer literal that is not negative. -/
def toNat? : Number → Option Nat
  | .integer n => if 0 ≤ n then some n.toNat else none
  | .real _ => none

/-- The number of a computed floating-point value. Whole values up to `2 ^ 53` are
integers, and values without a JSON form have none. -/
def ofFloat? (x : Float) : Option Number :=
  match Decimal.exactInteger? x with
  | some n => some (.integer n)
  | none => if Decimal.isFinite x then some (.real x) else none

end Number

namespace Json

/-- The name of a value's kind, as used in messages. -/
def kindName : Json → String
  | .null => "null"
  | .bool _ => "boolean"
  | .number _ => "number"
  | .string _ => "string"
  | .array _ => "array"
  | .object _ => "object"

/-- A natural number as a value. -/
def ofNat (n : Nat) : Json :=
  .number (.integer n)

/-- A computed number as a value: null when it has no JSON form. -/
def ofFloat (x : Float) : Json :=
  match Number.ofFloat? x with
  | some n => .number n
  | none => .null

/-- The members of an object. -/
def members? : Json → Option Document
  | .object members => some members
  | _ => none

/-- The items of an array. -/
def items? : Json → Option (List Json)
  | .array items => some items
  | _ => none

/-- The text of a string value. -/
def string? : Json → Option String
  | .string value => some value
  | _ => none

/-- The value of a member. Values that are no objects have no members. -/
def member? (key : String) (value : Json) : Option Json :=
  value.members?.bind (Keyed.get? key)

end Json

end DocumentGateway

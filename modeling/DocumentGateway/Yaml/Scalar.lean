import DocumentGateway.Decimal.Binary
import DocumentGateway.Decimal.Reading

/-!
# What plain scalars stand for

A scalar without quotes may stand for nothing, for a truth value or for a number, and
otherwise for its own text. Integers may be written to base ten, or with a mark to base
sixteen, eight or two. Digits after a leading zero are no number but text.
-/
namespace DocumentGateway.Yaml

/-- Whether a plain scalar says that there is no value. -/
def saysNothing (text : String) : Bool :=
  ["", "null", "Null", "NULL", "~"].contains text

/-- The truth value of a plain scalar. -/
def truth? (text : String) : Option Bool :=
  if ["true", "True", "TRUE"].contains text then some true
  else if ["false", "False", "FALSE"].contains text then some false
  else none

/-- The value of a digit in either case of letters. -/
def digitValue? (c : Char) : Option Nat :=
  if '0' ≤ c ∧ c ≤ '9' then some (c.toNat - '0'.toNat)
  else if 'a' ≤ c ∧ c ≤ 'z' then some (c.toNat - 'a'.toNat + 10)
  else if 'A' ≤ c ∧ c ≤ 'Z' then some (c.toNat - 'A'.toNat + 10)
  else none

/-- The natural number written by digits to a base. -/
def naturalToBase? (base : Nat) (digits : List Char) : Option Nat :=
  if digits.isEmpty then none
  else digits.foldlM (fun total c => do
    let digit ← digitValue? c
    if digit < base then some (total * base + digit) else none) 0

/-- Whether digits follow a leading zero. -/
def hasLeadingZero (unsigned : List Char) : Bool :=
  1 < unsigned.length && unsigned.head? = some '0' && unsigned.all Decimal.isDigit

/-- The natural number of a scalar without its sign. -/
def unsignedInteger? (unsigned : List Char) : Option Nat :=
  match unsigned with
  | '0' :: 'x' :: digits => naturalToBase? 16 digits
  | '0' :: 'o' :: digits => naturalToBase? 8 digits
  | '0' :: 'b' :: digits => naturalToBase? 2 digits
  | digits => if hasLeadingZero digits then none else naturalToBase? 10 digits

/-- The integer of a plain scalar. -/
def integer? (text : String) : Option Int :=
  let (negative, unsigned) := Decimal.readSign text.toList
  (unsignedInteger? unsigned).map fun n => if negative then -(n : Int) else n

/-- The finite number of a plain scalar, which is not written as an infinity. -/
def real? (text : String) : Option Float :=
  let (_, unsigned) := Decimal.readSign text.toList
  if hasLeadingZero unsigned then none
  else (Decimal.parse? text.toList).filter Decimal.isFinite

/-- Whether a plain scalar is one of the words for infinity and NaN. -/
def isWordForNumber (text : String) : Bool :=
  let (_, unsigned) := Decimal.readSign text.toList
  [".inf", ".Inf", ".INF"].contains (String.ofList unsigned) ||
    [".nan", ".NaN", ".NAN"].contains text

/-- Whether a plain scalar stands for its own text. -/
def isOwnText (text : String) : Bool :=
  !saysNothing text && (truth? text).isNone && (integer? text).isNone && (real? text).isNone &&
    !isWordForNumber text

end DocumentGateway.Yaml

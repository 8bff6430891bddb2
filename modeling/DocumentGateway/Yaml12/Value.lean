import DocumentGateway.Decimal.Reading
import DocumentGateway.Yaml12.Tag

/-!
# Values of YAML 1.2

A plain scalar stands for nothing, a truth value, a number or its own text. A tag says
which of these it has to be, and a scalar that is not of the kind its tag says is out of
kind. A number with a fraction or an exponent is kept as it is written. Two entries of a
section may not have the same key, and an integer is not the same key as its digits in
quotes.
-/
namespace DocumentGateway.Yaml12

/-- A value. -/
inductive Value where
  | nothing
  | outOfKind
  | truth (flag : Bool)
  | integer (number : Int)
  | real (text : String)
  | text (text : String)
  | list (items : List Value)
  | section (entries : List (Value × Value))

/-- The digits of a number to a base, with a sign in front if there is one. -/
def integerToBase? (base : Nat) (digits : List Char) : Option Int :=
  let (negative, unsigned) := Decimal.readSign digits
  if unsigned.isEmpty then none
  else
    (unsigned.foldlM (fun total c => do
      let digit ← hexDigit? c
      if digit < base then some (total * base + digit) else none) 0).map
      fun (n : Nat) => if negative then -(n : Int) else n

/-- Whether an integer has 64 bits with sign. -/
def isWithinRange (number : Int) : Bool :=
  -(Nat.pow 2 63) ≤ number && number < Nat.pow 2 63

/-- The integer of a plain scalar: to base sixteen or eight behind its mark, or else to
base ten. A further sign may stand behind a plus sign. -/
def integerOf? (text : List Char) : Option Int :=
  let marked := match text with
    | '0' :: 'x' :: digits => (integerToBase? 16 digits).filter isWithinRange
    | '0' :: 'o' :: digits => (integerToBase? 8 digits).filter isWithinRange
    | '+' :: digits => (integerToBase? 10 digits).filter isWithinRange
    | _ => none
  marked <|> (integerToBase? 10 text).filter isWithinRange

/-- Whether a text is one of the words for infinity and for what is not a number. -/
def isNumberWord (text : String) : Bool :=
  [".inf", ".Inf", ".INF", "+.inf", "+.Inf", "+.INF", "-.inf", "-.Inf", "-.INF",
    ".nan", ".NaN", ".NAN"].contains text

/-- Whether a text is written as a floating-point number. -/
def isReal (text : String) : Bool :=
  isNumberWord text ||
    (text.toList.any Decimal.isDigit && (Decimal.parse? text.toList).isSome)

/-- The value of a plain scalar without a tag. -/
def Value.ofPlain (text : String) : Value :=
  match integerOf? text.toList with
  | some number => .integer number
  | none =>
    if ["", "~", "null"].contains text then .nothing
    else if ["true", "True", "TRUE"].contains text then .truth true
    else if ["false", "False", "FALSE"].contains text then .truth false
    else if isReal text then .real text
    else .text text

/-- A tag with its handle resolved. -/
structure Tag where
  space : String
  name : String
  deriving DecidableEq, Repr

/-- The space of the tags that say what a scalar stands for. -/
def Tag.coreSpace : String := "tag:yaml.org,2002:"

/-- The value of a plain scalar with a tag. -/
def Value.ofTagged (tag : Tag) (text : String) : Value :=
  if tag.space ≠ Tag.coreSpace then .text text
  else match tag.name with
    | "bool" =>
      if text = "true" then .truth true else if text = "false" then .truth false else .outOfKind
    | "int" =>
      match (integerToBase? 10 text.toList).filter isWithinRange with
      | some number => .integer number
      | none => .outOfKind
    | "float" => if isReal text then .real text else .outOfKind
    | "null" => if text = "~" || text = "null" then .nothing else .outOfKind
    | _ => .text text

/-- The value of a scalar. -/
def Value.ofScalar (isPlain : Bool) (tag : Option Tag) (text : String) : Value :=
  if !isPlain then .text text
  else match tag with
    | some tag => ofTagged tag text
    | none => ofPlain text

/-- Whether two values are the same key. Lists and sections are never looked at as keys. -/
def Value.sameKey : Value → Value → Bool
  | .nothing, .nothing => true
  | .truth left, .truth right => left == right
  | .integer left, .integer right => left == right
  | .real left, .real right => left == right
  | .text left, .text right => left == right
  | _, _ => false

/-- The entries of a section, given the keys and values in turn. A key that is out of kind
is passed over, so that its value takes its place. -/
def pairUp (pending : Option Value) (entries : List (Value × Value)) :
    List Value → Option (List (Value × Value))
  | [] => some entries.reverse
  | value :: rest =>
    match pending with
    | none =>
      match value with
      | .outOfKind => pairUp none entries rest
      | key => pairUp (some key) entries rest
    | some key =>
      if entries.any fun entry => key.sameKey entry.1 then none
      else pairUp none ((key, value) :: entries) rest

end DocumentGateway.Yaml12

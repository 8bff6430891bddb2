import DocumentGateway.Json.Basic
import DocumentGateway.Decimal.Shortest

/-!
# JSON text

Values are written without any blank between tokens. In strings only the quote, the
backslash and the control characters below U+0020 are escaped; all other characters
stand for themselves.
-/
namespace DocumentGateway.Json

/-- The digit of a value below sixteen, in lower case. -/
def hexDigit (value : Nat) : Char :=
  if value < 10 then Char.ofNat ('0'.toNat + value) else Char.ofNat ('a'.toNat + value - 10)

/-- A character inside a string. Five control characters have a short escape. -/
def printChar (c : Char) : List Char :=
  if c = '"' then ['\\', '"']
  else if c = '\\' then ['\\', '\\']
  else if c = '\n' then ['\\', 'n']
  else if c = '\r' then ['\\', 'r']
  else if c = '\t' then ['\\', 't']
  else if c = '\x08' then ['\\', 'b']
  else if c = '\x0c' then ['\\', 'f']
  else if c.toNat < 0x20 then ['\\', 'u', '0', '0', hexDigit (c.toNat / 16), hexDigit (c.toNat % 16)]
  else [c]

/-- A string between quotes. -/
def printText (text : String) : List Char :=
  '"' :: text.toList.flatMap printChar ++ ['"']

/-- The decimal digits of an integer. -/
def printInteger : Int → List Char
  | .ofNat n => Nat.toDigits 10 n
  | .negSucc n => '-' :: Nat.toDigits 10 (n + 1)

/-- A number. A floating-point number always shows a point or an exponent. -/
def printNumber : Number → List Char
  | .integer n => printInteger n
  | .real x => if Decimal.isFinite x then Decimal.text x else ['n', 'u', 'l', 'l']

mutual

/-- The characters of a value. -/
def print : Json → List Char
  | .null => ['n', 'u', 'l', 'l']
  | .bool true => ['t', 'r', 'u', 'e']
  | .bool false => ['f', 'a', 'l', 's', 'e']
  | .number n => printNumber n
  | .string value => printText value
  | .array items => '[' :: printItems items ++ [']']
  | .object members => '{' :: printMembers members ++ ['}']

/-- The items of an array with commas between them. -/
def printItems : List Json → List Char
  | [] => []
  | [item] => print item
  | item :: next :: rest => print item ++ ',' :: printItems (next :: rest)

/-- The members of an object with commas between them. -/
def printMembers : List (String × Json) → List Char
  | [] => []
  | [(key, value)] => printText key ++ ':' :: print value
  | (key, value) :: next :: rest =>
    printText key ++ ':' :: print value ++ ',' :: printMembers (next :: rest)

end

/-- The text of a value. -/
def toText (value : Json) : String :=
  String.ofList (print value)

end DocumentGateway.Json

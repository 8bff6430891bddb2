import DocumentGateway.Json.Basic
import DocumentGateway.Decimal.Reading

/-!
# Reading JSON text

The reader accepts exactly the JSON grammar: one value with nothing but space, tab and
line ends around it. Three limits come on top: arrays and objects nest at most 127
deep, a number must stay within the floating-point range, and an escape must stand for
a character. A repeated key of an object keeps the place of its first occurrence and
takes the value of its last.

Every reading step answers the value it found and the text after it. The first argument
of the recursive steps bounds the number of tokens; the length of the text suffices.
-/
namespace DocumentGateway.Json

/-- The characters allowed between tokens. -/
def isGap (c : Char) : Bool :=
  c = ' ' || c = '\t' || c = '\n' || c = '\r'

/-- The text from its next token on. -/
def skipGap (text : List Char) : List Char :=
  text.dropWhile isGap

/-- The value of a hexadecimal digit in either case. -/
def hexValue? (c : Char) : Option Nat :=
  if '0' ≤ c ∧ c ≤ '9' then some (c.toNat - '0'.toNat)
  else if 'a' ≤ c ∧ c ≤ 'f' then some (c.toNat - 'a'.toNat + 10)
  else if 'A' ≤ c ∧ c ≤ 'F' then some (c.toNat - 'A'.toNat + 10)
  else none

/-- Four hexadecimal digits and the text after them. -/
def readHex4 : List Char → Option (Nat × List Char)
  | a :: b :: c :: d :: rest => do
    let a ← hexValue? a
    let b ← hexValue? b
    let c ← hexValue? c
    let d ← hexValue? d
    some (((a * 16 + b) * 16 + c) * 16 + d, rest)
  | _ => none

/-- The character of a numeric escape. The two halves of a surrogate pair stand for one
character, and neither stands alone. -/
def readUnicode (text : List Char) : Option (Char × List Char) := do
  let (unit, rest) ← readHex4 text
  if 0xD800 ≤ unit ∧ unit < 0xDC00 then
    match rest with
    | '\\' :: 'u' :: rest =>
      let (low, rest) ← readHex4 rest
      if 0xDC00 ≤ low ∧ low < 0xE000 then
        some (Char.ofNat (0x10000 + (unit - 0xD800) * 0x400 + (low - 0xDC00)), rest)
      else none
    | _ => none
  else if 0xDC00 ≤ unit ∧ unit < 0xE000 then none
  else some (Char.ofNat unit, rest)

/-- The character of an escape, whose backslash has been read. -/
def readEscape : List Char → Option (Char × List Char)
  | '"' :: rest => some ('"', rest)
  | '\\' :: rest => some ('\\', rest)
  | '/' :: rest => some ('/', rest)
  | 'b' :: rest => some ('\x08', rest)
  | 'f' :: rest => some ('\x0c', rest)
  | 'n' :: rest => some ('\n', rest)
  | 'r' :: rest => some ('\r', rest)
  | 't' :: rest => some ('\t', rest)
  | 'u' :: rest => readUnicode rest
  | _ => none

/-- The rest of a string whose opening quote has been read. The characters read so far
come last first. -/
def readText : Nat → List Char → List Char → Option (String × List Char)
  | 0, _, _ => none
  | fuel + 1, done, text =>
    match text with
    | [] => none
    | '"' :: rest => some (String.ofList done.reverse, rest)
    | '\\' :: rest =>
      match readEscape rest with
      | some (c, rest) => readText fuel (c :: done) rest
      | none => none
    | c :: rest => if c.toNat < 0x20 then none else readText fuel (c :: done) rest

/-- The exponent of a number and the text after it. -/
def readPower : List Char → Option (Option Int × List Char)
  | mark :: rest =>
    if mark = 'e' ∨ mark = 'E' then
      let (negative, rest) := Decimal.readSign rest
      let digits := rest.takeWhile Decimal.isDigit
      if digits.isEmpty then none
      else
        let power : Int := Decimal.natural digits
        some (some (if negative then -power else power), rest.dropWhile Decimal.isDigit)
    else some (none, mark :: rest)
  | [] => some (none, [])

/-- The fraction digits of a number, if it has a point, and the text after them. -/
def readFraction : List Char → Option (Option (List Char) × List Char)
  | '.' :: rest =>
    let digits := rest.takeWhile Decimal.isDigit
    if digits.isEmpty then none else some (some digits, rest.dropWhile Decimal.isDigit)
  | rest => some (none, rest)

/-- The number written by an integer literal. Literals beyond 64 bits and negative zero
are floating-point numbers. -/
def integerLiteral (negative : Bool) (digits : List Char) : Option Number :=
  let n := Decimal.natural digits
  if negative then
    if n = 0 ∨ Nat.pow 2 63 < n then (Decimal.ofLimited digits [] 0).map fun x => .real (-x)
    else some (.integer (-n))
  else if n < Nat.pow 2 64 then some (.integer n)
  else (Decimal.ofLimited digits [] 0).map .real

/-- A number whose sign has been read, and the text after it. -/
def readUnsigned (negative : Bool) (text : List Char) : Option (Number × List Char) := do
  let whole := text.takeWhile Decimal.isDigit
  if whole.isEmpty || (whole.head? = some '0' && 1 < whole.length) then none
  let (fraction, text) ← readFraction (text.dropWhile Decimal.isDigit)
  let (power, text) ← readPower text
  match fraction, power with
  | none, none => (integerLiteral negative whole).map fun n => (n, text)
  | _, _ =>
    (Decimal.ofLimited whole (fraction.getD []) (power.getD 0)).map fun x =>
      (.real (if negative then -x else x), text)

/-- A number and the text after it. -/
def readNumber (text : List Char) : Option (Number × List Char) :=
  match text with
  | '-' :: rest => readUnsigned true rest
  | rest => readUnsigned false rest

mutual

/-- A value and the text after it. The second argument is the number of levels that may
still be opened. -/
def readValue : Nat → Nat → List Char → Option (Json × List Char)
  | 0, _, _ => none
  | fuel + 1, depth, text =>
    match skipGap text with
    | 'n' :: 'u' :: 'l' :: 'l' :: rest => some (.null, rest)
    | 't' :: 'r' :: 'u' :: 'e' :: rest => some (.bool true, rest)
    | 'f' :: 'a' :: 'l' :: 's' :: 'e' :: rest => some (.bool false, rest)
    | '"' :: rest => (readText (rest.length + 1) [] rest).map fun (s, rest) => (.string s, rest)
    | '[' :: rest =>
      match depth with
      | 0 => none
      | depth + 1 =>
        match skipGap rest with
        | ']' :: rest => some (.array [], rest)
        | rest => (readItems fuel depth rest).map fun (items, rest) => (.array items, rest)
    | '{' :: rest =>
      match depth with
      | 0 => none
      | depth + 1 =>
        match skipGap rest with
        | '}' :: rest => some (.object [], rest)
        | rest =>
          (readMembers fuel depth rest).map fun (members, rest) =>
            (.object (Keyed.ofList members), rest)
    | rest => (readNumber rest).map fun (n, rest) => (.number n, rest)

/-- The items of an array up to its closing bracket. -/
def readItems : Nat → Nat → List Char → Option (List Json × List Char)
  | 0, _, _ => none
  | fuel + 1, depth, text =>
    match readValue fuel depth text with
    | none => none
    | some (item, rest) =>
      match skipGap rest with
      | ',' :: rest => (readItems fuel depth rest).map fun (items, rest) => (item :: items, rest)
      | ']' :: rest => some ([item], rest)
      | _ => none

/-- The members of an object up to its closing brace, in the order of the text. -/
def readMembers : Nat → Nat → List Char → Option (List (String × Json) × List Char)
  | 0, _, _ => none
  | fuel + 1, depth, text =>
    match skipGap text with
    | '"' :: rest =>
      match readText (rest.length + 1) [] rest with
      | none => none
      | some (key, rest) =>
        match skipGap rest with
        | ':' :: rest =>
          match readValue fuel depth rest with
          | none => none
          | some (value, rest) =>
            match skipGap rest with
            | ',' :: rest =>
              (readMembers fuel depth rest).map fun (members, rest) =>
                ((key, value) :: members, rest)
            | '}' :: rest => some ([(key, value)], rest)
            | _ => none
        | _ => none
    | _ => none

end

/-- The deepest nesting of arrays and objects that is read. -/
def maxDepth : Nat := 127

/-- The value written by a whole text. -/
def parse? (text : List Char) : Option Json :=
  match readValue (2 * text.length + 2) maxDepth text with
  | some (value, rest) => if (skipGap rest).isEmpty then some value else none
  | none => none

/-- The value written by a string. -/
def ofText? (text : String) : Option Json :=
  parse? text.toList

end DocumentGateway.Json

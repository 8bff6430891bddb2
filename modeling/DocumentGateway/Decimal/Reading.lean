/-!
# Reading decimal numbers

`ofDecimal` rounds an exact decimal to the nearest number. `parse?` reads a whole text:
an optional sign, digits with at most one point, and an optional exponent; the words
for infinity and NaN are read too. `integer?` reads digits after an optional sign.
`ofLimited` is the coarser rule of JSON text, where only the leading digits that fit in
64 bits are kept and scaled by one rounded power of ten.
-/
namespace DocumentGateway.Decimal

/-- The value of a decimal digit. Only ASCII digits count. -/
def digit? (c : Char) : Option Nat :=
  if '0' ≤ c ∧ c ≤ '9' then some (c.toNat - '0'.toNat) else none

/-- Whether the character is an ASCII digit. -/
def isDigit (c : Char) : Bool :=
  (digit? c).isSome

/-- The natural number written by a row of digits. Other characters count as zero. -/
def natural (digits : List Char) : Nat :=
  digits.foldl (fun total c => total * 10 + (digit? c).getD 0) 0

/-- The natural number written by a text that holds at least one digit and nothing else. -/
def natural? (text : List Char) : Option Nat :=
  if text.isEmpty || !text.all isDigit then none else some (natural text)

/-- Positive infinity, the value of every decimal beyond the range. -/
def infinity : Float :=
  Float.ofBits 0x7FF0000000000000

/-- The number nearest to `digits * 10 ^ exponent`. Decimals that are certain to be
out of range are settled first, so that no huge power is formed. -/
def ofDecimal (digits : Nat) (exponent : Int) : Float :=
  if digits = 0 then 0
  else
    let place := (Nat.toDigits 10 digits).length + exponent
    if place > 400 then infinity
    else if place < -400 then 0
    else Float.ofScientific digits (exponent < 0) exponent.natAbs

/-- The sign in front of a number and the rest of the text. -/
def readSign : List Char → Bool × List Char
  | '-' :: rest => (true, rest)
  | '+' :: rest => (false, rest)
  | rest => (false, rest)

/-- The integer written by digits after an optional sign. -/
def integer? (text : List Char) : Option Int :=
  let (negative, digits) := readSign text
  (natural? digits).map fun n => if negative then -(n : Int) else n

/-- The natural number written by digits after an optional plus sign. -/
def unsignedInteger? : List Char → Option Nat
  | '+' :: digits => natural? digits
  | digits => natural? digits

/-- The exponent part of a number, which must be the whole text. -/
def readExponent : List Char → Option Int
  | [] => some 0
  | mark :: rest =>
    if mark = 'e' ∨ mark = 'E' then
      let (negative, digits) := readSign rest
      if digits.isEmpty || !digits.all isDigit then none
      else some (if negative then -(natural digits : Int) else natural digits)
    else none

/-- The words that stand for numbers without digits, in any case of letters. -/
def word? (text : List Char) : Option Float :=
  let lower := String.ofList (text.map Char.toLower)
  if lower = "inf" ∨ lower = "infinity" then some infinity
  else if lower = "nan" then some (Float.ofBits 0x7FF8000000000000)
  else none

/-- A number without its sign. -/
def unsigned? (text : List Char) : Option Float :=
  match word? text with
  | some x => some x
  | none =>
    let whole := text.takeWhile isDigit
    let afterWhole := text.dropWhile isDigit
    let (fraction, rest) := match afterWhole with
      | '.' :: tail => (tail.takeWhile isDigit, tail.dropWhile isDigit)
      | other => ([], other)
    if whole.isEmpty && fraction.isEmpty then none
    else
      (readExponent rest).map fun exponent =>
        ofDecimal (natural (whole ++ fraction)) (exponent - fraction.length)

/-- The number written by a whole text. A point may stand at either end of the
digits, and at least one digit is required. -/
def parse? (text : List Char) : Option Float :=
  let (negative, rest) := readSign text
  (unsigned? rest).map fun x => if negative then -x else x

/-- The leading digits of a row that fit in 64 bits, and how many were left over. -/
def leading (limit : Nat) : List Char → Nat → Nat × Nat
  | [], total => (total, 0)
  | c :: rest, total =>
    let next := total * 10 + (digit? c).getD 0
    if next < limit then leading limit rest next else (total, rest.length + 1)

/-- Scales a number by a power of ten, itself rounded once. Powers beyond the range
are reached in steps of 308 places; `none` means that the number has left the range. -/
def scaleBy (x : Float) (exponent : Int) : Nat → Option Float
  | 0 => some x
  | fuel + 1 =>
    if exponent.natAbs ≤ 308 then
      let power := Float.ofScientific 1 false exponent.natAbs
      if 0 ≤ exponent then
        let scaled := x * power
        if scaled == infinity then none else some scaled
      else some (x / power)
    else if x == 0 then some x
    else if 0 ≤ exponent then none
    else scaleBy (x / Float.ofScientific 1 false 308) (exponent + 308) fuel

/-- The number written by whole digits, fraction digits and an exponent, from the
leading digits that fit in 64 bits. Each whole digit left over scales the result by
ten, and each fraction digit taken up scales it back by one place. -/
def ofLimited (whole fraction : List Char) (exponent : Int) : Option Float :=
  let (kept, lost) := leading (Nat.pow 2 64) whole 0
  let (total, unused) := leading (Nat.pow 2 64) fraction kept
  let place := exponent + lost - (fraction.length - unused : Nat)
  scaleBy total.toUInt64.toFloat place 8

end DocumentGateway.Decimal

import DocumentGateway.Decimal.Binary

/-!
# The fewest decimal digits that read back

Every finite number is surrounded by an interval of reals that round to it. Among the
decimal grids with 1, 2, … digits the first one that has a point inside the interval
is used, and of the two grid points around the number the nearer one is taken. Reading
such a decimal gives the number back, and no decimal with fewer digits does.

The second half lays digits out as text: positional while the leading digit stands
between 10⁻⁵ and 10¹⁵, and with an exponent outside, always showing that the number is
not an integer literal.
-/
namespace DocumentGateway.Decimal

/-- A positive decimal number `digits * 10 ^ scale`. -/
structure Scaled where
  digits : Nat
  scale : Int
  deriving DecidableEq, Repr

/-- A quotient of two natural numbers with a positive denominator. -/
structure Quotient where
  numerator : Nat
  denominator : Nat

/-- `n * 2 ^ power` as a quotient. -/
def Quotient.scaled (n : Nat) (power : Int) : Quotient :=
  if 0 ≤ power then ⟨n * Nat.pow 2 power.toNat, 1⟩ else ⟨n, Nat.pow 2 (-power).toNat⟩

/-- The reals that round to a number, as four quarters of the last binary place:
`lower` and `upper` bound it, and `closed` says whether the bounds belong to it. -/
structure Interval where
  lower : Nat
  middle : Nat
  upper : Nat
  power : Int
  closed : Bool

/-- The interval around a positive finite number. Just above a power of two the
neighbour below is only half as far away. -/
def interval (x : Float) : Interval :=
  let m := significand x
  let narrow := magnitude x % Nat.pow 2 52 = 0 ∧ 1 < exponentField x
  { lower := if narrow then 4 * m - 1 else 4 * m - 2
    middle := 4 * m
    upper := 4 * m + 2
    power := exponent x - 2
    closed := m % 2 = 0 }

/-- Whether `digits * 10 ^ scale` lies in the interval. All sides are multiplied by
the same positive factors first, so that only natural numbers are compared. -/
def Interval.holds (range : Interval) (digits : Nat) (scale : Int) : Bool :=
  let ten := Nat.pow 10 scale.natAbs
  let two := Nat.pow 2 range.power.natAbs
  let point := if 0 ≤ scale then digits * ten else digits
  let point := if 0 ≤ range.power then point else point * two
  let bound := fun n : Nat =>
    let n := if 0 ≤ range.power then n * two else n
    if 0 ≤ scale then n else n * ten
  if range.closed then bound range.lower ≤ point && point ≤ bound range.upper
  else bound range.lower < point && point < bound range.upper

/-- The decimal place of the leading digit of a positive quotient below one, as the
number of places after the point that are zero. -/
def leadingZeros (numerator denominator : Nat) : Nat → Nat
  | 0 => 0
  | fuel + 1 =>
    if denominator ≤ numerator * 10 then 0
    else leadingZeros (numerator * 10) denominator fuel + 1

/-- The exponent of ten of the leading digit of a positive quotient. -/
def leadingPlace (value : Quotient) : Int :=
  if value.denominator ≤ value.numerator then
    ((Nat.toDigits 10 (value.numerator / value.denominator)).length : Int) - 1
  else -(leadingZeros value.numerator value.denominator 400 : Int) - 1

/-- The largest grid point not above the value, on the grid of the given scale. -/
def gridBelow (value : Quotient) (scale : Int) : Nat :=
  if 0 ≤ scale then value.numerator / (value.denominator * Nat.pow 10 scale.toNat)
  else value.numerator * Nat.pow 10 (-scale).toNat / value.denominator

/-- Whether the value is nearer to `below + 1` than to `below` on the grid. A value
halfway between the two goes to the even one. -/
def nearerAbove (value : Quotient) (scale : Int) (below : Nat) : Bool :=
  let numerator := if 0 ≤ scale then value.numerator else value.numerator * Nat.pow 10 (-scale).toNat
  let denominator := if 0 ≤ scale then value.denominator * Nat.pow 10 scale.toNat else value.denominator
  let twice := 2 * numerator
  let half := (2 * below + 1) * denominator
  half < twice || (half = twice && below % 2 = 1)

/-- The point of the grid with the given scale that is nearest to the value among
those in the interval. -/
def gridPoint? (range : Interval) (value : Quotient) (scale : Int) : Option Nat :=
  let below := gridBelow value scale
  match range.holds below scale, range.holds (below + 1) scale with
  | true, true => some (if nearerAbove value scale below then below + 1 else below)
  | true, false => some below
  | false, true => some (below + 1)
  | false, false => none

/-- Tries the grids from the coarsest to the finest. -/
def firstGrid (range : Interval) (value : Quotient) (place : Int) : Nat → Nat → Scaled
  | 0, digits => ⟨gridBelow value (place - digits), place - digits⟩
  | fuel + 1, digits =>
    match gridPoint? range value (place - digits) with
    | some point => ⟨point, place - digits⟩
    | none => firstGrid range value place fuel (digits + 1)

/-- The shortest decimal that reads back as the positive finite number. Seventeen
digits always suffice. -/
def shortest (x : Float) : Scaled :=
  let range := interval x
  let value := Quotient.scaled range.middle range.power
  firstGrid range value (leadingPlace value) 17 0

/-- The digits of a decimal without trailing zeros, and the exponent of ten of the
first digit. -/
def digitsAndPlace (number : Scaled) : List Char × Int :=
  let digits := Nat.toDigits 10 number.digits
  let shown := (digits.reverse.dropWhile (· = '0')).reverse
  (shown, number.scale + digits.length - 1)

/-- Digits laid out with a point, and at least one digit on both sides of it. -/
def positional (digits : List Char) (place : Int) : List Char :=
  if place < 0 then
    ['0', '.'] ++ List.replicate (-place - 1).toNat '0' ++ digits
  else
    let whole := place.toNat + 1
    if digits.length ≤ whole then
      digits ++ List.replicate (whole - digits.length) '0' ++ ['.', '0']
    else digits.take whole ++ ['.'] ++ digits.drop whole

/-- Digits laid out with an exponent that always carries its sign. -/
def withExponent (digits : List Char) (place : Int) : List Char :=
  let fraction := match digits.drop 1 with
    | [] => []
    | rest => '.' :: rest
  let sign := if place < 0 then '-' else '+'
  digits.take 1 ++ fraction ++ ['e', sign] ++ Nat.toDigits 10 place.natAbs

/-- The text of a positive finite number. -/
def positiveText (x : Float) : List Char :=
  let (digits, place) := digitsAndPlace (shortest x)
  if -5 ≤ place ∧ place < 16 then positional digits place else withExponent digits place

/-- The text of a positive finite number without an exponent, and without a fraction if
the number is whole. -/
def plainPositiveText (x : Float) : List Char :=
  let (digits, place) := digitsAndPlace (shortest x)
  let text := positional digits place
  if (digits.length : Int) ≤ place + 1 then text.take (text.length - 2) else text

/-- The text of a finite number without an exponent. Both zeros keep their sign. -/
def plainText (x : Float) : List Char :=
  let sign := if isNegative x then ['-'] else []
  if magnitude x = 0 then sign ++ ['0'] else sign ++ plainPositiveText x

/-- The text of a finite number. Both zeros keep their sign. -/
def text (x : Float) : List Char :=
  let sign := if isNegative x then ['-'] else []
  if magnitude x = 0 then sign ++ ['0', '.', '0'] else sign ++ positiveText x

end DocumentGateway.Decimal

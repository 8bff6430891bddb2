/-!
# The parts of a binary floating-point number

A finite number is plus or minus `significand * 2 ^ exponent`, where both are read off
the 64 bits of the number. Two orders are read off the same bits. `position` follows
the real line, so both zeros stand at 0. `rank` tells the zeros apart and puts
negative zero just below zero. On numbers that are not NaN, `position` orders as the
reals do.
-/
namespace DocumentGateway.Decimal

/-- The bits below the sign bit. -/
def magnitude (x : Float) : Nat :=
  x.toBits.toNat % Nat.pow 2 63

/-- Whether the sign bit is set. -/
def isNegative (x : Float) : Bool :=
  Nat.pow 2 63 ≤ x.toBits.toNat

/-- The place of a number on the real line, counted in representable numbers from
zero. -/
def position (x : Float) : Int :=
  if isNegative x then -(magnitude x : Int) else magnitude x

/-- The place of a number in the order that separates negative zero from zero. -/
def rank (x : Float) : Int :=
  if isNegative x then -(magnitude x : Int) - 1 else magnitude x

/-- The eleven exponent bits. -/
def exponentField (x : Float) : Nat :=
  magnitude x / Nat.pow 2 52

/-- Whether the number is neither infinite nor NaN. -/
def isFinite (x : Float) : Bool :=
  exponentField x < 2047

/-- The integer significand. Below the normal range the leading bit is absent. -/
def significand (x : Float) : Nat :=
  if exponentField x = 0 then magnitude x else Nat.pow 2 52 + magnitude x % Nat.pow 2 52

/-- The power of two by which the significand is scaled. -/
def exponent (x : Float) : Int :=
  if exponentField x = 0 then -1074 else (exponentField x : Int) - 1075

/-- The integer a finite number stands for, when it is one and lies within the range
`-2 ^ 53 … 2 ^ 53` where every integer is representable. -/
def exactInteger? (x : Float) : Option Int :=
  if isFinite x then
    let whole : Option Nat :=
      if 0 ≤ exponent x then some (significand x * Nat.pow 2 (exponent x).toNat)
      else
        let unit := Nat.pow 2 (-exponent x).toNat
        if significand x % unit = 0 then some (significand x / unit) else none
    match whole with
    | some n =>
      if n ≤ Nat.pow 2 53 then some (if isNegative x then -(n : Int) else n) else none
    | none => none
  else none

end DocumentGateway.Decimal

import DocumentGateway.Json.Basic
import DocumentGateway.Text.Cut
import DocumentGateway.Text.DecimalDigit
import DocumentGateway.Decimal.Reading

/-!
# Types of raw values

A raw value becomes a number, else a boolean, else it stays text. Two questions decide
this: whether the value looks like a number, and which boolean it passes for. Whoever
answers them is a recognizer. Looking like a number is not enough to be one, whatever
recognizer says so: the value must also read as a finite number.

The recognizers that can be chosen by a setting go by two patterns. Under `anywhere`
matching it is enough that the pattern occurs in the value, so `truest` is a boolean and
`1e5` looks like a number; under `whole` matching the pattern must cover the value.
-/
namespace DocumentGateway.Search

/-- Where in a raw value the type patterns have to match. -/
inductive Matching where
  | anywhere | whole
  deriving DecidableEq, Repr

/-- A typed value. -/
inductive Scalar where
  | number (value : Float)
  | boolean (value : Bool)
  | text (value : List Char)

/-- Digits with an optional minus sign and an optional fraction. -/
def isNumeral (raw : List Char) : Bool :=
  let unsigned := match raw with
    | '-' :: rest => rest
    | rest => rest
  if (unsigned.takeWhile Text.isDecimalDigit).isEmpty then false
  else match unsigned.dropWhile Text.isDecimalDigit with
    | [] => true
    | '.' :: fraction => !fraction.isEmpty && fraction.all Text.isDecimalDigit
    | _ => false

/-- The leftmost occurrence of a boolean word. -/
def leftmostBoolean? : List Char → Option Bool
  | [] => none
  | c :: rest =>
    if ['t', 'r', 'u', 'e'].isPrefixOf (c :: rest) then some true
    else if ['f', 'a', 'l', 's', 'e'].isPrefixOf (c :: rest) then some false
    else leftmostBoolean? rest

/-- Whether a raw value passes the number pattern. A single digit anywhere is an
occurrence of it. -/
def Matching.isNumeric (matching : Matching) (raw : List Char) : Bool :=
  match matching with
  | .anywhere => raw.any Text.isDecimalDigit
  | .whole => isNumeral raw

/-- The boolean a raw value passes for. -/
def Matching.boolean? (matching : Matching) (raw : List Char) : Option Bool :=
  match matching with
  | .anywhere => leftmostBoolean? raw
  | .whole =>
    if raw = ['t', 'r', 'u', 'e'] then some true
    else if raw = ['f', 'a', 'l', 's', 'e'] then some false
    else none

/-- The finite number a raw value reads as. -/
def finite? (raw : List Char) : Option Float :=
  (Decimal.parse? raw).filter Decimal.isFinite

/-! ## Recognizers -/

/-- What answers the questions about the type of a raw value. -/
structure Recognizer where
  isNumeric : List Char → Bool
  boolean? : List Char → Option Bool

namespace Recognizer

variable (recognizer : Recognizer)

/-- The number of a raw value that looks like one. -/
def number? (raw : List Char) : Option Float :=
  if recognizer.isNumeric raw then finite? raw else none

/-- The typed value of a raw value. Numbers are tried before booleans. -/
def infer (raw : List Char) : Scalar :=
  match recognizer.number? raw with
  | some x => .number x
  | none =>
    match recognizer.boolean? raw with
    | some b => .boolean b
    | none => .text raw

end Recognizer

/-- The recognizer that goes by the patterns of a way of matching. -/
def Matching.recognizer (matching : Matching) : Recognizer :=
  ⟨matching.isNumeric, matching.boolean?⟩

/-- The typed value of a raw value under a way of matching. -/
def Matching.infer (matching : Matching) : List Char → Scalar :=
  matching.recognizer.infer

/-- The JSON form of a typed value. Whole numbers are shown as integers. -/
def Scalar.toJson : Scalar → Json
  | .number x => Json.ofFloat x
  | .boolean b => .bool b
  | .text raw => .string (String.ofList raw)

end DocumentGateway.Search

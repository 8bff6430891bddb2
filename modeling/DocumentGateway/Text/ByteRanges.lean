import DocumentGateway.Text.CharSet

/-!
# Ranges of characters as ranges of bytes

The UTF-8 forms of a range of characters are described by rows of byte ranges. A row
stands for all byte strings with one byte out of each of its ranges. One row is enough
when the characters have the same number of bytes and when every byte after the first
one that varies runs through all its values; any other range is cut in two.
-/
namespace DocumentGateway.Text

/-- The last code points of one, two and three bytes. -/
def widthLimits : List Nat :=
  [0x7F, 0x7FF, 0xFFFF]

/-- Where a range ends that does not cross the limit of a number of bytes. -/
def cutAtWidth? (range : CharRange) : Option Nat :=
  widthLimits.find? fun limit => range.first ≤ limit && limit < range.last

/-- Where a range is cut that varies in a byte before its last `count` ones while these
do not run through all their values. -/
def cutAtByte? (range : CharRange) (count : Nat) : Option Nat :=
  let unit := Nat.pow 64 count
  if range.first / unit = range.last / unit then none
  else if range.first % unit ≠ 0 then some (range.first / unit * unit + unit - 1)
  else if range.last % unit ≠ unit - 1 then some (range.last / unit * unit - 1)
  else none

/-- The last code point of the first part of a range that has to be cut in two. -/
def cut? (range : CharRange) : Option Nat :=
  if range.first < 0xE000 && 0xD7FF < range.last then some 0xD7FF
  else match cutAtWidth? range with
    | some last => some last
    | none =>
      if range.last < 0x80 then none else [1, 2, 3].findSome? (cutAtByte? range)

/-- The bytes of a code point. -/
def codeBytes (code : Nat) : List Nat :=
  (String.utf8EncodeChar (Char.ofNat code)).map UInt8.toNat

/-- The rows of a range. Each cut leaves fewer than the given number of further cuts. -/
def byteRowsWithin : Nat → CharRange → List (List (Nat × Nat))
  | 0, _ => []
  | cuts + 1, range =>
    match cut? range with
    | some last =>
      let second := if last = 0xD7FF then 0xE000 else last + 1
      (if range.first ≤ last then byteRowsWithin cuts ⟨range.first, last⟩ else []) ++
        byteRowsWithin cuts ⟨second, range.last⟩
    | none => [(codeBytes range.first).zip (codeBytes range.last)]

/-- The rows of byte ranges of a range of characters, in increasing order. -/
def byteRows (range : CharRange) : List (List (Nat × Nat)) :=
  byteRowsWithin 32 range

/-- The rows of byte ranges of a set of characters, in increasing order. -/
def CharSet.byteRows (set : CharSet) : List (List (Nat × Nat)) :=
  set.ranges.toList.flatMap Text.byteRows

end DocumentGateway.Text

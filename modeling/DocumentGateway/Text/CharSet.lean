/-!
# Sets of characters

A set of characters is the list of its ranges in increasing order, with a gap between
any two of them, so that two sets with the same members are written the same way. The
code points of surrogates are no characters: the character after U+D7FF is U+E000.
Membership is decided by halving the list.
-/
namespace DocumentGateway.Text

/-- The characters from a first to a last code point, both included. -/
structure CharRange where
  first : Nat
  last : Nat
  deriving DecidableEq, Repr

/-- A set of characters. -/
structure CharSet where
  ranges : Array CharRange
  deriving DecidableEq, Repr

/-- The last code point. -/
def lastCode : Nat := 0x10FFFF

/-- The code point of the next character. -/
def nextCode (code : Nat) : Nat :=
  if code = 0xD7FF then 0xE000 else code + 1

/-- The code point of the previous character. -/
def previousCode (code : Nat) : Nat :=
  if code = 0xE000 then 0xD7FF else code - 1

namespace CharSet

/-- The set without members. -/
def empty : CharSet :=
  ⟨#[]⟩

/-- Adds a range to ranges given with the last one first, none of which starts after it.
A range that meets or touches the one before it is joined to it. -/
def addRange (done : List CharRange) (range : CharRange) : List CharRange :=
  match done with
  | [] => [range]
  | previous :: others =>
    if range.first ≤ previous.last + 1 then
      ⟨previous.first, max previous.last range.last⟩ :: others
    else range :: previous :: others

/-- The set of all characters in some of the ranges. -/
def ofRanges (ranges : List CharRange) : CharSet :=
  let sorted := ranges.mergeSort fun left right => left.first ≤ right.first
  ⟨(sorted.foldl addRange []).reverse.toArray⟩

/-- The set of all characters in ranges given by their ends. -/
def ofPairs (pairs : List (Nat × Nat)) : CharSet :=
  ofRanges (pairs.map fun pair => ⟨pair.1, pair.2⟩)

/-- The set of the characters from the first to the last one. -/
def between (first last : Char) : CharSet :=
  ⟨#[⟨first.toNat, last.toNat⟩]⟩

/-- The set of one character. -/
def single (c : Char) : CharSet :=
  between c c

/-- The set of the characters of a list. -/
def ofChars (members : List Char) : CharSet :=
  ofRanges (members.map fun c => ⟨c.toNat, c.toNat⟩)

/-- Whether a code point lies in one of the ranges from the index `low` up to before the
index `high`. Each step halves the part that is left, so `steps` may be any number that
is not below the length of the part. -/
def search (ranges : Array CharRange) (code : Nat) : Nat → Nat → Nat → Bool
  | 0, _, _ => false
  | steps + 1, low, high =>
    if low < high then
      let middle := (low + high) / 2
      match ranges[middle]? with
      | none => false
      | some range =>
        if code < range.first then search ranges code steps low middle
        else if range.last < code then search ranges code steps (middle + 1) high
        else true
    else false

/-- Whether the character is a member. -/
def contains (set : CharSet) (c : Char) : Bool :=
  search set.ranges c.toNat set.ranges.size 0 set.ranges.size

/-- Whether the set has no members. -/
def isEmpty (set : CharSet) : Bool :=
  set.ranges.isEmpty

/-- The member of a set that has only one. -/
def only? (set : CharSet) : Option Char :=
  match set.ranges.toList with
  | [range] => if range.first = range.last then some (Char.ofNat range.first) else none
  | _ => none

/-- Whether all members are below U+0080. -/
def isAscii (set : CharSet) : Bool :=
  set.ranges.all fun range => range.last < 0x80

/-- The members of either set. -/
def union (left right : CharSet) : CharSet :=
  ofRanges (left.ranges.toList ++ right.ranges.toList)

/-- The ranges between the given ones and after them, from a code point on. -/
def gaps (start : Nat) : List CharRange → List CharRange
  | [] => if start ≤ lastCode then [⟨start, lastCode⟩] else []
  | range :: others =>
    let after := gaps (nextCode range.last) others
    if start < range.first then ⟨start, previousCode range.first⟩ :: after else after

/-- The characters that are no members. -/
def complement (set : CharSet) : CharSet :=
  ⟨(gaps 0 set.ranges.toList).toArray⟩

/-- The members of both sets. -/
def intersection (left right : CharSet) : CharSet :=
  (left.complement.union right.complement).complement

/-- The members of the left set that are not in the right one. -/
def difference (left right : CharSet) : CharSet :=
  left.intersection right.complement

/-- The members of exactly one of the sets. -/
def symmetricDifference (left right : CharSet) : CharSet :=
  (left.union right).difference (left.intersection right)

end CharSet

end DocumentGateway.Text

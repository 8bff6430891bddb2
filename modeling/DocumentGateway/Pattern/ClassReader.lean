import DocumentGateway.Pattern.Escape
import DocumentGateway.Text.Cut

/-!
# Character classes

A class in brackets is a union of characters, ranges, sets with names and further
classes. Between two unions may stand an operation on sets, and the operations are
carried out from left to right. A class may be negated. Every class, every union of more
than one item and every operation counts as a level of nesting.
-/
namespace DocumentGateway.Pattern

open Text

/-- A set with the number of levels of its written form. -/
structure LeveledSet where
  set : CharSet
  levels : Nat

/-- The items of a union read so far: their ranges, their number and the levels of the
deepest one. -/
structure Items where
  ranges : List CharRange
  count : Nat
  levels : Nat

/-- No items. -/
def Items.none : Items :=
  ⟨[], 0, 0⟩

/-- Adds an item. -/
def Items.add (items : Items) (item : LeveledSet) : Items :=
  ⟨item.set.ranges.toList ++ items.ranges, items.count + 1, max items.levels item.levels⟩

/-- The union of the items. -/
def Items.union (items : Items) : LeveledSet :=
  ⟨CharSet.ofRanges items.ranges, if items.count ≤ 1 then items.levels else items.levels + 1⟩

/-- The sets with a name between `[:` and `:]`. -/
def namedSet? (name : List Char) : Option CharSet :=
  match String.ofList name with
  | "alnum" => some (CharSet.ofPairs [(0x30, 0x39), (0x41, 0x5A), (0x61, 0x7A)])
  | "alpha" => some (CharSet.ofPairs [(0x41, 0x5A), (0x61, 0x7A)])
  | "ascii" => some (CharSet.ofPairs [(0x00, 0x7F)])
  | "blank" => some (CharSet.ofPairs [(0x09, 0x09), (0x20, 0x20)])
  | "cntrl" => some (CharSet.ofPairs [(0x00, 0x1F), (0x7F, 0x7F)])
  | "digit" => some (CharSet.ofPairs [(0x30, 0x39)])
  | "graph" => some (CharSet.ofPairs [(0x21, 0x7E)])
  | "lower" => some (CharSet.ofPairs [(0x61, 0x7A)])
  | "print" => some (CharSet.ofPairs [(0x20, 0x7E)])
  | "punct" => some (CharSet.ofPairs [(0x21, 0x2F), (0x3A, 0x40), (0x5B, 0x60), (0x7B, 0x7E)])
  | "space" => some (CharSet.ofPairs [(0x09, 0x0D), (0x20, 0x20)])
  | "upper" => some (CharSet.ofPairs [(0x41, 0x5A)])
  | "word" => some Flags.asciiWord
  | "xdigit" => some (CharSet.ofPairs [(0x30, 0x39), (0x41, 0x46), (0x61, 0x66)])
  | _ => none

/-- The name of a set inside a class, whose `[` has been read, and whether the set is
negated. -/
def readSetName (text : List Char) : Option (Bool × CharSet × List Char) :=
  match text with
  | ':' :: rest =>
    let (negated, rest) := match rest with
      | '^' :: rest => (true, rest)
      | rest => (false, rest)
    match cutAt? [':'] rest with
    | some (name, ']' :: rest) => (namedSet? name).map fun set => (negated, set, rest)
    | _ => none
  | _ => none

/-- One element of a class before it is known whether it starts a range. -/
def readClassElement (flags : Flags) : List Char → Option (Escape × List Char)
  | '\\' :: rest => readEscape flags rest
  | c :: rest => some (.literal c, rest)
  | [] => none

/-- An element of a class or a range of characters. A hyphen before the end of the class
or before another hyphen starts no range. -/
def readClassItem (flags : Flags) (text : List Char) : Option (CharSet × List Char) := do
  let (element, rest) ← readClassElement flags text
  let rest := flags.skip rest
  let isRange := match rest with
    | '-' :: after => flags.peek after ≠ some ']' && flags.peek after ≠ some '-'
    | _ => false
  if isRange then
    let (last, rest) ← readClassElement flags (flags.skip (rest.drop 1))
    match element, last with
    | .literal first, .literal last =>
      if first ≤ last && flags.admits first && flags.admits last then
        some (CharSet.between first last, rest)
      else none
    | _, _ => none
  else
    match element with
    | .literal c => if flags.admits c then some (CharSet.single c, rest) else none
    | .set set => some (set, rest)
    | .assertion _ => none

/-- The operations on sets inside a class. -/
inductive SetOperation where
  | intersection
  | difference
  | symmetricDifference

/-- Carries out an operation on two sets. -/
def SetOperation.apply (left right : CharSet) : SetOperation → CharSet
  | .intersection => left.intersection right
  | .difference => left.difference right
  | .symmetricDifference => left.symmetricDifference right

/-- An operation with its left operand. -/
structure PendingOperation where
  operation : SetOperation
  left : LeveledSet

/-- Completes a pending operation with its right operand. -/
def complete (flags : Flags) (pending : Option PendingOperation) (right : LeveledSet) : LeveledSet :=
  match pending with
  | some ⟨operation, left⟩ =>
    ⟨operation.apply (flags.widen left.set) (flags.widen right.set), max left.levels right.levels + 1⟩
  | none => right

/-- The literal hyphens at the start of a class. The first argument is not below the
length of the text. -/
def readHyphens (flags : Flags) : Nat → Items → List Char → Items × List Char
  | 0, items, text => (items, text)
  | fuel + 1, items, text =>
    match text with
    | '-' :: rest => readHyphens flags fuel (items.add ⟨CharSet.single '-', 0⟩) (flags.skip rest)
    | _ => (items, text)

/-- The beginning of a class after its bracket: a negation mark, hyphens, and a closing
bracket in the place of an element. -/
def openClass (flags : Flags) (text : List Char) : Bool × Items × List Char :=
  let (negated, text) := match flags.skip text with
    | '^' :: rest => (true, flags.skip rest)
    | text => (false, text)
  match text with
  | ']' :: rest => (negated, Items.none.add ⟨CharSet.single ']', 0⟩, rest)
  | _ =>
    let (items, text) := readHyphens flags text.length Items.none text
    (negated, items, text)

/-- The rest of a class, up to its closing bracket. -/
def readClass (flags : Flags) :
    Nat → Bool → Option PendingOperation → Items → List Char → Option (LeveledSet × List Char)
  | 0, _, _, _, _ => none
  | fuel + 1, negated, pending, items, text =>
    let operate := fun (operation : SetOperation) (rest : List Char) =>
      readClass flags fuel negated (some ⟨operation, complete flags pending items.union⟩) Items.none rest
    match flags.skip text with
    | [] => none
    | ']' :: rest =>
      let whole := complete flags pending items.union
      (flags.negate? negated (flags.widen whole.set)).map fun set => (⟨set, whole.levels + 1⟩, rest)
    | '[' :: rest =>
      match readSetName rest with
      | some (setNegated, named, rest) =>
        match flags.negate? setNegated (flags.widen named) with
        | some set => readClass flags fuel negated pending (items.add ⟨set, 0⟩) rest
        | none => none
      | none =>
        let (innerNegated, innerItems, rest) := openClass flags rest
        match readClass flags fuel innerNegated none innerItems rest with
        | some (inner, rest) => readClass flags fuel negated pending (items.add inner) rest
        | none => none
    | '&' :: '&' :: rest => operate .intersection rest
    | '-' :: '-' :: rest => operate .difference rest
    | '~' :: '~' :: rest => operate .symmetricDifference rest
    | text =>
      match readClassItem flags text with
      | some (item, rest) => readClass flags fuel negated pending (items.add ⟨item, 0⟩) rest
      | none => none

end DocumentGateway.Pattern

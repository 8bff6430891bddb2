import DocumentGateway.Decimal.Reading
import DocumentGateway.Pattern.ClassReader
import DocumentGateway.Pattern.Size

/-!
# Reading patterns

The written form of patterns: literals, `.`, character classes, anchors, word
boundaries, groups, alternation, repetition and inline flags. There is no looking around
and no reference back to a group, so those forms are refused like any other malformed
text. So is a pattern that nests too deep or whose automaton is too large. A class, a
repetition, a group, a sequence of more than one element and a choice between more than
one branch each count as a level of nesting.
-/
namespace DocumentGateway.Pattern

open Text

/-- The deepest nesting of a pattern. -/
def maxLevels : Nat := 250

/-- What is carried along while reading: the flags in force, the group names used and the
number of groups opened. -/
structure Reading where
  flags : Flags
  names : List (List Char)
  groups : Nat

/-- A pattern with the number of levels of its written form. -/
structure LeveledPattern where
  pattern : Pattern
  levels : Nat

/-- An element of a sequence. A change of flags cannot be repeated. -/
inductive Element where
  | piece (part : LeveledPattern)
  | directive

/-- The pattern an element contributes. -/
def Element.pattern : Element → Pattern
  | .piece part => part.pattern
  | .directive => .empty

/-- The levels of an element. -/
def Element.levels : Element → Nat
  | .piece part => part.levels
  | .directive => 0

/-- The levels of several parts put together. Putting one part together adds none. -/
def levelsOf (levels : List Nat) : Nat :=
  levels.foldl max 0 + if levels.length ≤ 1 then 0 else 1

/-- The pattern of a sequence, given with its last element first. -/
def joinElements (done : List Element) : LeveledPattern :=
  ⟨inSequence (done.reverse.map Element.pattern), levelsOf (done.map Element.levels)⟩

/-- The pattern of a choice between branches. -/
def joinBranches (branches : List LeveledPattern) : LeveledPattern :=
  ⟨anyOf (branches.map LeveledPattern.pattern), levelsOf (branches.map LeveledPattern.levels)⟩

/-- Whether a character may start the name of a group. -/
def startsName (c : Char) : Bool :=
  c = '_' || isAlphabetic c

/-- Whether a character may continue the name of a group. -/
def continuesName (c : Char) : Bool :=
  c = '_' || c = '.' || c = '[' || c = ']' || isAlphanumeric c

/-- The name of a group up to its closing angle bracket. -/
def readName (text : List Char) : Option (List Char × List Char) :=
  match cutAt? ['>'] text with
  | some (first :: others, rest) =>
    if startsName first && others.all continuesName then some (first :: others, rest) else none
  | _ => none

/-- The digits of a count. The first argument is not below the length of the text. -/
def readDigits (flags : Flags) : Nat → List Char → List Char × List Char
  | 0, text => ([], text)
  | fuel + 1, text =>
    match text with
    | [] => ([], [])
    | c :: rest =>
      if Decimal.isDigit c then
        let (digits, rest) := readDigits flags fuel (flags.skip rest)
        (c :: digits, rest)
      else ([], c :: rest)

/-- The text after blanks, and after comments behind the first blank. -/
def skipBlanks (flags : Flags) (text : List Char) : List Char :=
  match text with
  | c :: rest => if isBlank c then (flags.skip rest).dropWhile isBlank else text
  | [] => []

/-- A count of a repetition, which must fit in 32 bits. -/
def readCount (flags : Flags) (text : List Char) : Option (Nat × List Char) :=
  let text := text.dropWhile isBlank
  let (digits, rest) := readDigits flags text.length text
  let count := Decimal.natural digits
  if digits.isEmpty || Nat.pow 2 32 ≤ count then none else some (count, skipBlanks flags rest)

/-- The bounds of a counted repetition, whose opening brace has been read. -/
def readBounds (flags : Flags) (text : List Char) : Option (Nat × Option Nat × List Char) := do
  let (least, rest) ← readCount flags (flags.skip text)
  match rest with
  | '\x7d' :: rest => some (least, some least, rest)
  | ',' :: rest =>
    match flags.skip rest with
    | '\x7d' :: rest => some (least, none, rest)
    | rest =>
      match ← readCount flags rest with
      | (most, '\x7d' :: rest) => if least ≤ most then some (least, some most, rest) else none
      | _ => none
  | _ => none

/-- Whether a mark that swaps the preference of a repetition follows, and the text after
it. -/
def readLazy : List Char → Bool × List Char
  | '?' :: rest => (true, rest)
  | rest => (false, rest)

/-- Repeats the last element of a sequence. -/
def repeatLast (least : Nat) (most : Option Nat) (greedy : Bool) : List Element → Option (List Element)
  | .piece part :: done =>
    some (.piece ⟨repeated part.pattern least most greedy, part.levels + 1⟩ :: done)
  | _ => none

/-- The pattern of an escape outside classes. -/
def Flags.ofEscape (flags : Flags) : Escape → Pattern
  | .literal c => flags.literal c
  | .set set => ofSet set flags.alphabet
  | .assertion assertion => .holds assertion

mutual

/-- Alternatives up to the end of the group or of the text. -/
def readBranches : Nat → Reading → List Char → Option (List LeveledPattern × Reading × List Char)
  | 0, _, _ => none
  | fuel + 1, reading, text =>
    match readSequence fuel reading [] text with
    | some (first, reading, '|' :: rest) =>
      (readBranches fuel reading rest).map fun (others, reading, rest) =>
        (first :: others, reading, rest)
    | some (last, reading, rest) => some ([last], reading, rest)
    | none => none

/-- A sequence up to the end of the alternative. The elements read come last first. -/
def readSequence : Nat → Reading → List Element → List Char → Option (LeveledPattern × Reading × List Char)
  | 0, _, _, _ => none
  | fuel + 1, reading, done, text =>
    let flags := reading.flags
    let goOn := fun (pattern : Pattern) (levels : Nat) (rest : List Char) =>
      readSequence fuel reading (.piece ⟨pattern, levels⟩ :: done) rest
    let goOnRepeated := fun (least : Nat) (most : Option Nat) (rest : List Char) =>
      let (isLazy, rest) := readLazy rest
      match repeatLast least most (isLazy == flags.swapGreed) done with
      | some done => readSequence fuel reading done rest
      | none => none
    match flags.skip text with
    | [] => some (joinElements done, reading, [])
    | '|' :: rest => some (joinElements done, reading, '|' :: rest)
    | ')' :: rest => some (joinElements done, reading, ')' :: rest)
    | '(' :: rest =>
      match readGroup fuel reading (flags.skip rest) with
      | some (element, reading, rest) => readSequence fuel reading (element :: done) rest
      | none => none
    | '[' :: rest =>
      let (negated, items, rest) := openClass flags rest
      match readClass flags (rest.length + 1) negated none items rest with
      | some (leveled, rest) => goOn (ofSet leveled.set flags.alphabet) leveled.levels rest
      | none => none
    | '?' :: rest => goOnRepeated 0 (some 1) rest
    | '*' :: rest => goOnRepeated 0 none rest
    | '+' :: rest => goOnRepeated 1 none rest
    | '\x7b' :: rest =>
      match readBounds flags rest with
      | some (least, most, rest) => goOnRepeated least most (flags.skip rest)
      | none => none
    | '\\' :: rest =>
      match readEscape flags rest with
      | some (escape, rest) => goOn (flags.ofEscape escape) 0 rest
      | none => none
    | '.' :: rest =>
      match flags.dot? with
      | some dot => goOn dot 0 rest
      | none => none
    | '^' :: rest => goOn (.holds flags.start) 0 rest
    | '$' :: rest => goOn (.holds flags.finish) 0 rest
    | c :: rest => goOn (flags.literal c) 0 rest

/-- A group or a change of flags, whose opening parenthesis has been read. The flags of
a group end with it. -/
def readGroup : Nat → Reading → List Char → Option (Element × Reading × List Char)
  | 0, _, _ => none
  | fuel + 1, reading, text =>
    let body := fun (wrap : Pattern → Pattern) (inner : Reading) (rest : List Char) =>
      match readBranches fuel inner rest with
      | some (branches, after, ')' :: rest) =>
        let joined := joinBranches branches
        some (Element.piece ⟨wrap joined.pattern, joined.levels + 1⟩,
          { after with flags := reading.flags }, rest)
      | _ => none
    let number := reading.groups + 1
    let named := fun (rest : List Char) =>
      match readName rest with
      | some (name, rest) =>
        if reading.names.contains name then none
        else body (Pattern.group number)
          { reading with names := name :: reading.names, groups := number } rest
      | none => none
    match text with
    | '?' :: '=' :: _ => none
    | '?' :: '!' :: _ => none
    | '?' :: '<' :: '=' :: _ => none
    | '?' :: '<' :: '!' :: _ => none
    | '?' :: 'P' :: '<' :: rest => named rest
    | '?' :: '<' :: rest => named rest
    | '?' :: rest =>
      match readFlags reading.flags [] false false rest with
      | some (flags, true, rest) => some (.directive, { reading with flags := flags }, rest)
      | some (flags, false, rest) => body id { reading with flags := flags } rest
      | none => none
    | text => body (Pattern.group number) { reading with groups := number } text

end

/-- Reads a pattern under the given flags. -/
def read? (flags : Flags) (text : List Char) : Option Pattern :=
  match readBranches (2 * text.length + 2) ⟨flags, [], 0⟩ text with
  | some (branches, _, []) =>
    let joined := joinBranches branches
    if joined.levels ≤ maxLevels && isSmall joined.pattern then some joined.pattern else none
  | _ => none

end DocumentGateway.Pattern

import DocumentGateway.Text.CaseFolding
import DocumentGateway.Text.WordCharacter

/-!
# Text patterns

A pattern describes pieces of a text by the characters they are made of and by what
stands around them. The functions that put patterns together keep them small: a sequence
holds no empty part and no two neighbouring literals, a choice holds no choice and no
part that all its branches begin with, a choice between single characters is a set, and
what takes up no characters is repeated at most once. The size of the automaton of a
pattern, and with it whether the pattern is accepted, is measured on this form.
-/
namespace DocumentGateway

open Text

/-- The alphabet a set of characters is drawn from. -/
inductive Alphabet where
  | unicode
  | ascii
  deriving DecidableEq, Repr

/-- What must hold at a place, without taking up any character. -/
inductive Assertion where
  | textStart
  | textEnd
  | lineStart
  | lineEnd
  | lineStartCrlf
  | lineEndCrlf
  | wordBoundary (alphabet : Alphabet)
  | notWordBoundary (alphabet : Alphabet)
  | wordStart (alphabet : Alphabet)
  | wordEnd (alphabet : Alphabet)
  | wordStartHalf (alphabet : Alphabet)
  | wordEndHalf (alphabet : Alphabet)
  deriving DecidableEq, Repr

/-- A pattern. A repetition without an upper bound may go on for ever; whether it prefers
more rounds or fewer is kept but does not change which texts it fits. Groups are
numbered from 1. -/
inductive Pattern where
  | empty
  | literal (characters : List Char)
  | oneOf (set : CharSet) (alphabet : Alphabet)
  | holds (assertion : Assertion)
  | repetition (body : Pattern) (least : Nat) (most : Option Nat) (greedy : Bool)
  | group (number : Nat) (body : Pattern)
  | sequence (parts : List Pattern)
  | choice (branches : List Pattern)

namespace Pattern

mutual

/-- Whether two patterns are written the same way. -/
def same : Pattern → Pattern → Bool
  | .empty, .empty => true
  | .literal left, .literal right => left == right
  | .oneOf left leftAlphabet, .oneOf right rightAlphabet =>
    left == right && leftAlphabet == rightAlphabet
  | .holds left, .holds right => left == right
  | .repetition left leftLeast leftMost leftGreedy, .repetition right rightLeast rightMost rightGreedy =>
    leftLeast == rightLeast && leftMost == rightMost && leftGreedy == rightGreedy && same left right
  | .group leftNumber left, .group rightNumber right => leftNumber == rightNumber && same left right
  | .sequence left, .sequence right => sameAll left right
  | .choice left, .choice right => sameAll left right
  | _, _ => false

/-- Whether the patterns of two lists are written the same way. -/
def sameAll : List Pattern → List Pattern → Bool
  | [], [] => true
  | left :: leftRest, right :: rightRest => same left right && sameAll leftRest rightRest
  | _, _ => false

end

/-- The number of bytes of a character with the code point. -/
def codeWidth (code : Nat) : Nat :=
  if code < 0x80 then 1 else if code < 0x800 then 2 else if code < 0x10000 then 3 else 4

/-- The number of bytes of a text in UTF-8. -/
def byteLength (characters : List Char) : Nat :=
  characters.foldl (fun total c => total + codeWidth c.toNat) 0

/-- The smaller of two bounds, of which none is met by a pattern that fits nothing. -/
def leastOf : List (Option Nat) → Option Nat
  | [] => none
  | [bound] => bound
  | bound :: others =>
    match bound, leastOf others with
    | some bound, some other => some (min bound other)
    | _, _ => none

/-- The larger of two bounds, of which none stands for no bound. -/
def mostOf : List (Option Nat) → Option Nat
  | [] => none
  | [bound] => bound
  | bound :: others =>
    match bound, mostOf others with
    | some bound, some other => some (max bound other)
    | _, _ => none

mutual

/-- The number of bytes of the shortest piece that can fit, if any can. -/
def leastBytes : Pattern → Option Nat
  | .empty => some 0
  | .literal characters => some (byteLength characters)
  | .oneOf set _ => set.ranges[0]?.map fun range => codeWidth range.first
  | .holds _ => some 0
  | .repetition body least _ _ => (leastBytes body).map (· * least)
  | .group _ body => leastBytes body
  | .sequence parts => (leastBytesOfAll parts).foldl (fun total bound => do some ((← total) + (← bound))) (some 0)
  | .choice branches => leastOf (leastBytesOfAll branches)

/-- The bounds of the patterns of a list. -/
def leastBytesOfAll : List Pattern → List (Option Nat)
  | [] => []
  | pattern :: others => leastBytes pattern :: leastBytesOfAll others

end

mutual

/-- The number of bytes of the longest piece that can fit, if there is a bound and any
piece can fit. -/
def mostBytes : Pattern → Option Nat
  | .empty => some 0
  | .literal characters => some (byteLength characters)
  | .oneOf set _ => set.ranges.back?.map fun range => codeWidth range.last
  | .holds _ => some 0
  | .repetition body _ most _ => do some ((← most) * (← mostBytes body))
  | .group _ body => mostBytes body
  | .sequence parts => (mostBytesOfAll parts).foldl (fun total bound => do some ((← total) + (← bound))) (some 0)
  | .choice branches => mostOf (mostBytesOfAll branches)

/-- The bounds of the patterns of a list. -/
def mostBytesOfAll : List Pattern → List (Option Nat)
  | [] => []
  | pattern :: others => mostBytes pattern :: mostBytesOfAll others

end

/-- The pattern of one character out of a set. A set of one character is a literal. -/
def ofSet (set : CharSet) (alphabet : Alphabet) : Pattern :=
  match set.only? with
  | some c => .literal [c]
  | none => .oneOf set (if set.isEmpty then .ascii else alphabet)

/-- A pattern repeated. Repeating what takes up no characters more than once changes
nothing. -/
def repeated (body : Pattern) (least : Nat) (most : Option Nat) (greedy : Bool) : Pattern :=
  let (least, most) :=
    if mostBytes body = some 0 then (min least 1, some ((most.map (min · 1)).getD 1)) else (least, most)
  if least = 0 && most = some 0 then .empty
  else if least = 1 && most = some 1 then body
  else .repetition body least most greedy

/-- The parts of a pattern seen as a sequence. -/
def parts : Pattern → List Pattern
  | .empty => []
  | .sequence parts => parts
  | pattern => [pattern]

/-- Joins literals that stand next to each other. -/
def joinLiterals : List Pattern → List Pattern
  | [] => []
  | .literal characters :: rest =>
    match joinLiterals rest with
    | .literal more :: others => .literal (characters ++ more) :: others
    | others => .literal characters :: others
  | pattern :: rest => pattern :: joinLiterals rest

/-- The pattern of parts that follow each other. -/
def inSequence (patterns : List Pattern) : Pattern :=
  match joinLiterals (patterns.flatMap parts) with
  | [] => .empty
  | [pattern] => pattern
  | parts => .sequence parts

/-- The branches of a pattern seen as a choice. -/
def branches : Pattern → List Pattern
  | .choice branches => branches
  | pattern => [pattern]

/-- The character of a literal that has only one. -/
def onlyCharacter? : Pattern → Option Char
  | .literal [c] => some c
  | _ => none

/-- The set of a pattern that is one. -/
def set? : Pattern → Option CharSet
  | .oneOf set _ => some set
  | _ => none

/-- The parts of a pattern that is a sequence. -/
def sequenceParts? : Pattern → Option (List Pattern)
  | .sequence parts => some parts
  | _ => none

/-- The number of parts at the front of two lists that are written the same way. -/
def sharedLength : List Pattern → List Pattern → Nat
  | left :: leftRest, right :: rightRest =>
    if same left right then sharedLength leftRest rightRest + 1 else 0
  | _, _ => 0

/-- The number of parts that all the lists begin with. -/
def sharedLengthOfAll : List (List Pattern) → Nat
  | [] => 0
  | first :: others => others.foldl (fun length parts => min length (sharedLength first parts)) first.length

/-- A choice between single characters or between sets, as one pattern. -/
def choiceOfCharacters? (patterns : List Pattern) : Option Pattern :=
  match patterns.mapM onlyCharacter? with
  | some characters => some (ofSet (CharSet.ofChars characters) .unicode)
  | none =>
    (patterns.mapM set?).map fun sets =>
      ofSet (sets.foldl CharSet.union CharSet.empty) .unicode

/-- The pattern of branches none of which is a choice, apart from what they share at the
front. -/
def amongDistinct (patterns : List Pattern) : Pattern :=
  match patterns with
  | [] => .oneOf CharSet.empty .ascii
  | [pattern] => pattern
  | patterns => (choiceOfCharacters? patterns).getD (.choice patterns)

/-- The pattern of branches of which one has to fit. When all of them are sequences with
the same first parts, the choice is made after those parts. -/
def anyOf (patterns : List Pattern) : Pattern :=
  let patterns := patterns.flatMap branches
  match amongDistinct patterns with
  | .choice patterns =>
    match patterns.mapM sequenceParts? with
    | none => .choice patterns
    | some sequences =>
      match sharedLengthOfAll sequences with
      | 0 => .choice patterns
      | shared + 1 =>
        let rests := sequences.map fun parts => inSequence (parts.drop (shared + 1))
        inSequence ((sequences.headD []).take (shared + 1) ++ [amongDistinct (rests.flatMap branches)])
  | pattern => pattern

end Pattern

end DocumentGateway

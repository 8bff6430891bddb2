import DocumentGateway.Pattern.Basic

/-!
# Matching

Only one question is asked of a pattern: whether some piece of a text fits it. The
places of a text, those between its characters and at its ends, are numbered from the
start, and a set of places is the natural number in which their bits are set. A pattern
takes the set of the places where a piece may start to the set of the places where it
may then end. A single character moves all places before such a character one step
onward, and a repetition goes on until it finds no new place, so matching always ends.
-/
namespace DocumentGateway

open Text

/-- A text as it is seen by a match: its length, and for every character of it the places
in front of that character. -/
structure Subject where
  characters : List Char
  length : Nat
  occurrences : List (Char × Nat)

namespace Subject

/-- Notes a further place in front of a character. -/
def addOccurrence (c : Char) (place : Nat) : List (Char × Nat) → List (Char × Nat)
  | [] => [(c, 1 <<< place)]
  | (known, places) :: others =>
    if known = c then (known, places ||| (1 <<< place)) :: others
    else (known, places) :: addOccurrence c place others

/-- The places in front of every character of a text that starts at the given place. -/
def findOccurrences : Nat → List (Char × Nat) → List Char → List (Char × Nat)
  | _, found, [] => found
  | place, found, c :: rest => findOccurrences (place + 1) (addOccurrence c place found) rest

/-- A text made ready for matching. -/
def ofText (text : String) : Subject :=
  let characters := text.toList
  ⟨characters, characters.length, findOccurrences 0 [] characters⟩

/-- All places of the text. -/
def allPlaces (subject : Subject) : Nat :=
  (1 <<< (subject.length + 1)) - 1

/-- The places in front of the characters that satisfy a condition. -/
def before (subject : Subject) (condition : Char → Bool) : Nat :=
  subject.occurrences.foldl
    (fun places entry => if condition entry.1 then places ||| entry.2 else places) 0

/-- The places that satisfy a condition on the characters in front of them and after
them, from the given place on. -/
def placesFrom (condition : Option Char → Option Char → Bool) :
    Nat → Nat → Option Char → List Char → Nat
  | place, found, previous, [] =>
    if condition previous none then found ||| (1 <<< place) else found
  | place, found, previous, c :: rest =>
    let found := if condition previous (some c) then found ||| (1 <<< place) else found
    placesFrom condition (place + 1) found (some c) rest

/-- The places that satisfy a condition on the characters in front of them and after
them. -/
def places (subject : Subject) (condition : Option Char → Option Char → Bool) : Nat :=
  placesFrom condition 0 0 none subject.characters

end Subject

/-- The characters of words in an alphabet. -/
def Alphabet.isWordCharacter : Alphabet → Char → Bool
  | .unicode, c => Text.isWordCharacter c
  | .ascii, c => c.isAlphanum || c = '_'

/-- Whether an assertion holds between two characters, which are missing at the ends of
the text. -/
def Assertion.isTrue : Assertion → Option Char → Option Char → Bool
  | .textStart, previous, _ => previous.isNone
  | .textEnd, _, next => next.isNone
  | .lineStart, previous, _ => previous.all (· = '\n')
  | .lineEnd, _, next => next.all (· = '\n')
  | .lineStartCrlf, previous, next =>
    previous.all fun c => c = '\n' || (c = '\r' && next ≠ some '\n')
  | .lineEndCrlf, previous, next =>
    next.all fun c => c = '\r' || (c = '\n' && previous ≠ some '\r')
  | .wordBoundary alphabet, previous, next =>
    previous.any alphabet.isWordCharacter != next.any alphabet.isWordCharacter
  | .notWordBoundary alphabet, previous, next =>
    previous.any alphabet.isWordCharacter == next.any alphabet.isWordCharacter
  | .wordStart alphabet, previous, next =>
    !previous.any alphabet.isWordCharacter && next.any alphabet.isWordCharacter
  | .wordEnd alphabet, previous, next =>
    previous.any alphabet.isWordCharacter && !next.any alphabet.isWordCharacter
  | .wordStartHalf alphabet, previous, _ => !previous.any alphabet.isWordCharacter
  | .wordEndHalf alphabet, _, next => !next.any alphabet.isWordCharacter

/-- A pattern with its sets and assertions resolved to the places of one text. -/
inductive Passage where
  | stay (places : Nat)
  | step (places : Nat)
  | repetition (body : Passage) (least : Nat) (most : Option Nat)
  | sequence (parts : List Passage)
  | choice (branches : List Passage)

namespace Passage

/-- Goes on from places by exactly the given number of rounds. -/
def advance (round : Nat → Nat) : Nat → Nat → Nat
  | 0, places => places
  | count + 1, places => if places = 0 then 0 else advance round count (round places)

/-- Adds to the known places all that at most the given number of rounds reaches from the
newest ones. -/
def spread (round : Nat → Nat) : Nat → Nat → Nat → Nat
  | 0, _, known => known
  | count + 1, newest, known =>
    let found := (round newest ||| known) ^^^ known
    if found = 0 then known else spread round count found (known ||| found)

mutual

/-- The places where a piece may end that starts at one of the given places. More rounds
of a repetition than there are places in the text reach nothing new. -/
def reach (length : Nat) : Passage → Nat → Nat
  | .stay allowed, places => places &&& allowed
  | .step allowed, places => (places &&& allowed) <<< 1
  | .repetition body least most, places =>
    let round := fun places => reach length body places
    let required := advance round (min least (length + 1)) places
    let further := match most with
      | some most => min (most - least) (length + 1)
      | none => length + 1
    spread round further required required
  | .sequence parts, places => reachInTurn length parts places
  | .choice branches, places => reachByAny length branches places

/-- The places reached by following all passages of a list in turn. -/
def reachInTurn (length : Nat) : List Passage → Nat → Nat
  | [], places => places
  | passage :: rest, places =>
    if places = 0 then 0 else reachInTurn length rest (reach length passage places)

/-- The places reached by following one of the passages of a list. -/
def reachByAny (length : Nat) : List Passage → Nat → Nat
  | [], _ => 0
  | passage :: rest, places => reach length passage places ||| reachByAny length rest places

end

end Passage

namespace Pattern

mutual

/-- The passage of a pattern through a text. -/
def passage (subject : Subject) : Pattern → Passage
  | .empty => .sequence []
  | .literal characters => .sequence (characters.map fun c => .step (subject.before (· = c)))
  | .oneOf set _ => .step (subject.before set.contains)
  | .holds assertion => .stay (subject.places assertion.isTrue)
  | .repetition body least most _ => .repetition (passage subject body) least most
  | .group _ body => passage subject body
  | .sequence parts => .sequence (passages subject parts)
  | .choice branches => .choice (passages subject branches)

/-- The passages of the patterns of a list. -/
def passages (subject : Subject) : List Pattern → List Passage
  | [] => []
  | pattern :: rest => passage subject pattern :: passages subject rest

end

/-- Whether some piece of the text fits the pattern. -/
def isMatch (pattern : Pattern) (text : String) : Bool :=
  let subject := Subject.ofText text
  (pattern.passage subject).reach subject.length subject.allPlaces != 0

end Pattern

end DocumentGateway

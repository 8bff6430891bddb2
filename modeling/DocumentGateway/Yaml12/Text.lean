/-!
# Text with places, for YAML 1.2

The settings files of the gateway follow version 1.2 of YAML, in which only carriage
returns and line feeds end a line and every other character may stand in a text. The
text is read as a list of spots, each a character with its place. A zero character ends
the text, and one stands behind the last character of every text.
-/
namespace DocumentGateway.Yaml12

/-- A character with its place: its line, its column, the number of characters before it,
and whether nothing but blanks stands before it on its line. -/
structure Spot where
  char : Char
  line : Nat
  column : Nat
  distance : Nat
  leads : Bool
  deriving DecidableEq, Repr

/-- Whether a character is a space or a tab. -/
def isBlank (c : Char) : Bool :=
  c = ' ' || c = '\t'

/-- Whether a character ends a line. Carriage returns have been taken out of the text. -/
def isBreak (c : Char) : Bool :=
  c = '\n'

/-- Whether a character ends a line or the text. -/
def isEnd (c : Char) : Bool :=
  c = '\n' || c = '\x00'

/-- Whether a character is a blank or ends a line or the text. -/
def isGap (c : Char) : Bool :=
  isBlank c || isEnd c

/-- The characters that structure lists and sections within brackets. -/
def isFlowMark (c : Char) : Bool :=
  c = ',' || c = '[' || c = ']' || c = '{' || c = '}'

/-- Whether a character may stand in a word of a directive. -/
def isWordCharacter (c : Char) : Bool :=
  c.isAlphanum || c = '_' || c = '-'

/-- The place of a character. -/
structure Place where
  line : Nat
  column : Nat
  distance : Nat
  leads : Bool

/-- A character at a place. -/
def Place.spot (place : Place) (c : Char) : Spot :=
  ⟨c, place.line, place.column, place.distance, place.leads⟩

/-- The place after a line end of some characters. -/
def Place.nextLine (place : Place) (width : Nat) : Place :=
  ⟨place.line + 1, 0, place.distance + width, true⟩

/-- The place after a character within a line. -/
def Place.next (place : Place) (c : Char) : Place :=
  ⟨place.line, place.column + 1, place.distance + 1, place.leads && isBlank c⟩

/-- The spots of a text that begins at the given place. Both characters of a line end
count for the distance. -/
def spotsFrom (place : Place) : List Char → List Spot
  | '\r' :: '\n' :: rest => place.spot '\n' :: spotsFrom (place.nextLine 2) rest
  | '\r' :: rest => place.spot '\n' :: spotsFrom (place.nextLine 1) rest
  | '\n' :: rest => place.spot '\n' :: spotsFrom (place.nextLine 1) rest
  | '\x00' :: _ => [place.spot '\x00']
  | c :: rest => place.spot c :: spotsFrom (place.next c) rest
  | [] => [place.spot '\x00']

/-- The spots of a text. -/
def spots (text : List Char) : List Spot :=
  spotsFrom ⟨0, 0, 0, true⟩ text

/-- The character that comes after a number of others. -/
def charAt (text : List Spot) (index : Nat) : Char :=
  match text[index]? with
  | some spot => spot.char
  | none => '\x00'

/-- The first character of a text. -/
def headChar (text : List Spot) : Char :=
  charAt text 0

/-- The first spot of a text. -/
def headSpot (text : List Spot) : Spot :=
  text.headD ⟨'\x00', 0, 0, 0, true⟩

/-- Whether the text goes on with three times the character and a gap. -/
def isTriple (c : Char) (text : List Spot) : Bool :=
  charAt text 0 = c && charAt text 1 = c && charAt text 2 = c && isGap (charAt text 3)

/-- Whether a line begins here with the mark of a document. -/
def atDocumentMark (text : List Spot) : Bool :=
  (headSpot text).column = 0 && (isTriple '-' text || isTriple '.' text)

/-- The text from the end of the line on. -/
def skipComment (text : List Spot) : List Spot :=
  text.dropWhile fun spot => !isEnd spot.char

/-- What stands at the end of a line behind its last token: whether there is a tab, and
whether there is a space. -/
structure LineRest where
  hasTab : Bool
  hasSpace : Bool
  text : List Spot

/-- Leaves out the blanks and the comment behind a token. A comment that follows without a
blank is refused. -/
def skipLine (hasTab hasSpace : Bool) : List Spot → Option LineRest
  | [] => some ⟨hasTab, hasSpace, []⟩
  | spot :: rest =>
    if spot.char = ' ' then skipLine hasTab true rest
    else if spot.char = '\t' then skipLine true hasSpace rest
    else if spot.char = '#' then
      if hasTab || hasSpace then some ⟨hasTab, hasSpace, skipComment rest⟩ else none
    else some ⟨hasTab, hasSpace, spot :: rest⟩

/-- The text behind a tab that stands in the place of indentation: such a tab may only be
followed by blanks and a comment. -/
def skipTabbedLine (text : List Spot) : Option (List Spot) :=
  match skipLine false false text with
  | some rest => if isEnd (headChar rest.text) then some rest.text else none
  | none => none

/-- A number of line feeds. -/
def lineFeeds (count : Nat) : List Char :=
  List.replicate count '\n'

end DocumentGateway.Yaml12

import DocumentGateway.Yaml12.Text

/-!
# Plain scalars

A plain scalar goes on over several lines as long as they are indented. A single line
end between two words is read as a space, and of several line ends in a row all but the
first are kept.
-/
namespace DocumentGateway.Yaml12

/-- What has been read between two words: the blanks, whether a line has ended, and how
many line ends came after that. -/
structure Gap where
  blanks : List Char := []
  broken : Bool := false
  furtherBreaks : Nat := 0

/-- The characters that a gap before a word stands for. A word that begins a line comes
after line ends, and any other one after blanks. -/
def Gap.characters (gap : Gap) (beginsLine : Bool) : List Char :=
  if !beginsLine then gap.blanks
  else if gap.broken && gap.furtherBreaks = 0 then [' ']
  else lineFeeds gap.furtherBreaks

/-- Whether a character can be part of a plain scalar, given the one after it. -/
def continuesPlain (inFlow : Bool) (c next : Char) : Bool :=
  !isGap c && !(c = ':' && (isGap next || (inFlow && isFlowMark next))) &&
    !(inFlow && isFlowMark c)

/-- Reads a word of a plain scalar. -/
def readWord (inFlow : Bool) : List Spot → List Char × List Spot
  | [] => ([], [])
  | spot :: rest =>
    if continuesPlain inFlow spot.char (headChar rest) then
      let (word, rest) := readWord inFlow rest
      (spot.char :: word, rest)
    else ([], spot :: rest)

/-- Reads the gap behind a word. A tab left of the given column may not stand before
words. The first argument is not below the length of the text. -/
def readGap (least : Int) : Nat → Gap → List Spot → Option (Gap × List Spot)
  | 0, gap, text => some (gap, text)
  | fuel + 1, gap, text =>
    match text with
    | [] => some (gap, [])
    | spot :: rest =>
      if isBlank spot.char then
        if !spot.leads then readGap least fuel { gap with blanks := gap.blanks ++ [spot.char] } rest
        else if spot.char = '\t' && spot.column < least then
          match skipTabbedLine text with
          | some rest => readGap least fuel gap rest
          | none => none
        else readGap least fuel gap rest
      else if isBreak spot.char then
        if spot.leads then
          readGap least fuel { gap with furtherBreaks := gap.furtherBreaks + 1 } rest
        else readGap least fuel { gap with blanks := [], broken := true } rest
      else some (gap, text)

/-- Reads the words of a plain scalar and answers its characters and the text after it.
Outside brackets the lines after the first one must not begin left of the given column.
The first argument is not below the length of the text. -/
def readPlainFrom (inFlow : Bool) (least : Int) :
    Nat → List Char → Gap → List Spot → Option (List Char × List Spot)
  | 0, _, _, _ => none
  | fuel + 1, read, gap, text =>
    let spot := headSpot text
    if atDocumentMark text || spot.char = '#' then some (read, text)
    else if inFlow && spot.char = '-' && isFlowMark (charAt text 1) then none
    else
      let (read, gap, text) := match readWord inFlow text with
        | ([], _) => (read, gap, text)
        | (word, rest) => (read ++ gap.characters spot.leads ++ word, ({} : Gap), rest)
      if isBlank (headChar text) || isBreak (headChar text) then
        match readGap least text.length gap text with
        | some (gap, rest) =>
          if !inFlow && (headSpot rest).column < least then some (read, rest)
          else readPlainFrom inFlow least fuel read gap rest
        | none => none
      else some (read, text)

/-- Reads a plain scalar, which has at least one character. -/
def readPlain (inFlow : Bool) (least : Int) (text : List Spot) : Option (List Char × List Spot) :=
  if inFlow && (headSpot text).column < least then none
  else match readPlainFrom inFlow least (text.length + 1) [] {} text with
    | some ([], _) => none
    | result => result

end DocumentGateway.Yaml12

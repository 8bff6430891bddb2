/-!
# Text with places

YAML gives a meaning to where a character stands. The text is therefore read as a list
of spots, each a character with its line, its column and its distance from the
beginning. All ways to end a line are made into one first.

This module also reads the parts of scalars that may run over several lines. A single
line end between two words is read as a space, and of several line ends in a row all but
the first are kept.
-/
namespace DocumentGateway.Yaml

/-- A character with its place. -/
structure Spot where
  char : Char
  line : Nat
  column : Nat
  distance : Nat

/-- The text with one way to end a line. -/
def unifyLines : List Char → List Char
  | '\r' :: '\n' :: rest => '\n' :: unifyLines rest
  | '\r' :: rest => '\n' :: unifyLines rest
  | c :: rest => (if c = '\x85' then '\n' else c) :: unifyLines rest
  | [] => []

/-- Whether a character ends a line. -/
def isBreak (c : Char) : Bool :=
  c = '\n' || c = '\u2028' || c = '\u2029'

/-- Whether a character is a space or a tab. -/
def isBlank (c : Char) : Bool :=
  c = ' ' || c = '\t'

/-- Whether a character may stand in a YAML text. -/
def isPrintable (c : Char) : Bool :=
  c = '\t' || c = '\n' || (' ' ≤ c && c ≤ '~') ||
    ('\xA0' ≤ c && c.toNat ≤ 0xFFFD) || 0x10000 ≤ c.toNat

/-- The spots of a text that begins at the given place. -/
def spotsFrom (line column distance : Nat) : List Char → List Spot
  | [] => []
  | c :: rest =>
    ⟨c, line, column, distance⟩ ::
      (if isBreak c then spotsFrom (line + 1) 0 (distance + 1) rest
      else spotsFrom line (column + 1) (distance + 1) rest)

/-- The spots of a text without its byte order mark, if it has only permitted
characters. -/
def spots? (text : List Char) : Option (List Spot) :=
  let text := match text with
    | '\uFEFF' :: rest => rest
    | rest => rest
  let unified := unifyLines text
  if unified.all isPrintable then some (spotsFrom 0 0 0 unified) else none

/-- Whether the text is at its end, at a blank or at a line end. -/
def atGap : List Spot → Bool
  | [] => true
  | spot :: _ => isBlank spot.char || isBreak spot.char

/-- Whether a line begins with the mark of a document. -/
def atDocumentMark : List Spot → Option Bool
  | a :: b :: c :: rest =>
    if a.column = 0 && atGap rest then
      match a.char, b.char, c.char with
      | '-', '-', '-' => some true
      | '.', '.', '.' => some false
      | _, _, _ => none
    else none
  | _ => none

/-- The characters that structure lists and sections within brackets. -/
def isFlowMark (c : Char) : Bool :=
  c = ',' || c = '[' || c = ']' || c = '{' || c = '}'

/-- The text of the gap between two words: its blanks, or what its line ends stand
for. -/
def gapText (blanks breaks : List Char) : List Char :=
  match breaks with
  | [] => blanks
  | ['\n'] => [' ']
  | '\n' :: more => more
  | more => more

/-- Reads blanks and line ends. Answers the blanks on the first line, the line ends, and
the text after them. A tab left of the given column is refused on all lines but the
first. -/
def readGap (least : Nat) (blanks breaks : List Char) :
    List Spot → Option (List Char × List Char × List Spot)
  | [] => some (blanks, breaks, [])
  | spot :: rest =>
    if isBreak spot.char then readGap least blanks (breaks ++ [spot.char]) rest
    else if isBlank spot.char then
      if breaks.isEmpty then readGap least (blanks ++ [spot.char]) breaks rest
      else if spot.char = '\t' && spot.column < least then none
      else readGap least blanks breaks rest
    else some (blanks, breaks, spot :: rest)

/-! ## Plain scalars -/

/-- Reads a word of a plain scalar. A colon ends it when a gap follows, and so do, within
brackets, the characters that structure them. -/
def readWord (inFlow : Bool) : List Spot → Option (List Char × List Spot)
  | [] => some ([], [])
  | spot :: rest =>
    if isBlank spot.char || isBreak spot.char then some ([], spot :: rest)
    else if inFlow && spot.char = ':' &&
        (rest.head?.any fun next => isFlowMark next.char || next.char = '?') then none
    else if (spot.char = ':' && atGap rest) || (inFlow && isFlowMark spot.char) then
      some ([], spot :: rest)
    else (readWord inFlow rest).map fun (word, rest) => (spot.char :: word, rest)

/-- A scalar that has been read: its characters, the text after it, and whether the text
has come to a new line since its last character. -/
structure ReadScalar where
  text : List Char
  rest : List Spot
  newLine : Bool

/-- Reads the words of a plain scalar. Its later lines may not begin left of the given
column. The first argument bounds the number of words. -/
def readPlain (inFlow : Bool) (least : Nat) :
    Nat → List Char → List Char → Bool → List Spot → Option ReadScalar
  | 0, _, _, _, _ => none
  | fuel + 1, done, gap, newLine, text =>
    if (atDocumentMark text).isSome || (text.head?.any fun spot => spot.char = '#') then
      some ⟨done, text, newLine⟩
    else do
      let (word, rest) ← readWord inFlow text
      if word.isEmpty then some ⟨done, text, newLine⟩
      else
        let done := done ++ gap ++ word
        if rest.isEmpty || !atGap rest then some ⟨done, rest, false⟩
        else
          let (blanks, breaks, rest) ← readGap least [] [] rest
          if !inFlow && (rest.head?.any fun spot => spot.column < least) then
            some ⟨done, rest, !breaks.isEmpty⟩
          else readPlain inFlow least fuel done (gapText blanks breaks) (!breaks.isEmpty) rest

/-! ## Quoted scalars -/

/-- The value of a hexadecimal digit. -/
def hexValue? (c : Char) : Option Nat :=
  if '0' ≤ c ∧ c ≤ '9' then some (c.toNat - '0'.toNat)
  else if 'a' ≤ c ∧ c ≤ 'f' then some (c.toNat - 'a'.toNat + 10)
  else if 'A' ≤ c ∧ c ≤ 'F' then some (c.toNat - 'A'.toNat + 10)
  else none

/-- Reads a fixed number of hexadecimal digits. -/
def readHex : Nat → Nat → List Spot → Option (Nat × List Spot)
  | 0, total, rest => some (total, rest)
  | count + 1, total, spot :: rest =>
    (hexValue? spot.char).bind fun digit => readHex count (total * 16 + digit) rest
  | _ + 1, _, [] => none

/-- The character with a code point, if there is one. -/
def charAt? (codePoint : Nat) : Option Char :=
  if codePoint.isValidChar then some (Char.ofNat codePoint) else none

/-- The character of a numeric escape. -/
def readCode (digits : Nat) (rest : List Spot) : Option (Char × List Spot) :=
  (readHex digits 0 rest).bind fun (codePoint, rest) =>
    (charAt? codePoint).map fun c => (c, rest)

/-- The character of an escape, whose backslash has been read. -/
def readEscape : List Spot → Option (Char × List Spot)
  | [] => none
  | spot :: rest =>
    match spot.char with
    | '0' => some ('\x00', rest)
    | 'a' => some ('\x07', rest)
    | 'b' => some ('\x08', rest)
    | 't' => some ('\t', rest)
    | '\t' => some ('\t', rest)
    | 'n' => some ('\n', rest)
    | 'v' => some ('\x0b', rest)
    | 'f' => some ('\x0c', rest)
    | 'r' => some ('\r', rest)
    | 'e' => some ('\x1b', rest)
    | ' ' => some (' ', rest)
    | '"' => some ('"', rest)
    | '/' => some ('/', rest)
    | '\\' => some ('\\', rest)
    | 'N' => some ('\x85', rest)
    | '_' => some ('\xA0', rest)
    | 'L' => some ('\u2028', rest)
    | 'P' => some ('\u2029', rest)
    | 'x' => readCode 2 rest
    | 'u' => readCode 4 rest
    | 'U' => readCode 8 rest
    | _ => none

/-- Reads the rest of a scalar in double or single quotes. The first argument bounds the
number of characters. -/
def readQuoted (isDouble : Bool) : Nat → List Char → List Spot → Option ReadScalar
  | 0, _, _ => none
  | _, _, [] => none
  | fuel + 1, done, spot :: rest =>
    if (atDocumentMark (spot :: rest)).isSome then none
    else if isBlank spot.char || isBreak spot.char then do
      let (blanks, breaks, rest) ← readGap 0 [] [] (spot :: rest)
      readQuoted isDouble fuel (done ++ gapText blanks breaks) rest
    else if isDouble then
      if spot.char = '"' then some ⟨done, rest, false⟩
      else if spot.char = '\\' then
        match rest with
        | next :: after =>
          if isBreak next.char then do
            let (_, breaks, rest) ← readGap 0 [] ['\n'] after
            readQuoted isDouble fuel (done ++ breaks.drop 1) rest
          else do
            let (c, rest) ← readEscape (next :: after)
            readQuoted isDouble fuel (done ++ [c]) rest
        | [] => none
      else readQuoted isDouble fuel (done ++ [spot.char]) rest
    else if spot.char = '\'' then
      match rest with
      | next :: after =>
        if next.char = '\'' then readQuoted isDouble fuel (done ++ ['\'']) after
        else some ⟨done, rest, false⟩
      | [] => some ⟨done, rest, false⟩
    else readQuoted isDouble fuel (done ++ [spot.char]) rest

/-! ## Block scalars -/

/-- What becomes of the line ends at the end of a block scalar. -/
inductive Chomping where
  | strip | clip | keep

/-- The header of a block scalar: the chomping and the indentation, each at most once. -/
def readHeader : List Spot → Option (Chomping × Option Nat × List Spot)
  | [] => some (.clip, none, [])
  | spot :: rest =>
    match chomping? spot.char with
    | some chomping =>
      match indentation? rest with
      | some (0, _) => none
      | some (indent, after) => some (chomping, some indent, after)
      | none => some (chomping, none, rest)
    | none =>
      match indentation? (spot :: rest) with
      | some (0, _) => none
      | some (indent, next :: after) =>
        match chomping? next.char with
        | some chomping => some (chomping, some indent, after)
        | none => some (.clip, some indent, next :: after)
      | some (indent, []) => some (.clip, some indent, [])
      | none => some (.clip, none, spot :: rest)
where
  chomping? (c : Char) : Option Chomping :=
    if c = '+' then some .keep else if c = '-' then some .strip else none
  indentation? : List Spot → Option (Nat × List Spot)
    | [] => none
    | spot :: rest =>
      if '0' ≤ spot.char ∧ spot.char ≤ '9' then some (spot.char.toNat - '0'.toNat, rest) else none

/-- Leaves out a comment, up to the end of its line. -/
def skipComment : List Spot → List Spot
  | [] => []
  | spot :: rest =>
    if spot.char = '#' then rest.dropWhile fun next => !isBreak next.char else spot :: rest

/-- Leaves out the blanks and the comment after a header, up to the next line. -/
def finishHeader (text : List Spot) : Option (List Spot) :=
  match skipComment (text.dropWhile fun spot => isBlank spot.char) with
  | [] => some []
  | spot :: rest => if isBreak spot.char then some rest else none

/-- Reads empty lines and the indentation of the next line that is not empty. While the
indentation is not known, all spaces are taken. Answers the line ends, the largest
column reached, and the text from there. -/
def readIndent (indent : Option Nat) (breaks : List Char) (widest : Nat) :
    List Spot → Option (List Char × Nat × List Spot)
  | [] => some (breaks, widest, [])
  | spot :: rest =>
    let inside := indent.all fun indent => spot.column < indent
    if inside && spot.char = ' ' then readIndent indent breaks (max widest (spot.column + 1)) rest
    else if inside && spot.char = '\t' then none
    else if isBreak spot.char then readIndent indent (breaks ++ [spot.char]) widest rest
    else some (breaks, widest, spot :: rest)

/-- What is put between two lines of a block scalar. Lines of a folded scalar are joined
unless one of them begins with a blank. -/
def lineJoin (isLiteral leadingBlank trailingBlank : Bool) (lineEnd emptyLines : List Char) :
    List Char :=
  if !isLiteral && lineEnd = ['\n'] && !leadingBlank && !trailingBlank then
    if emptyLines.isEmpty then [' '] else emptyLines
  else lineEnd ++ emptyLines

/-- Reads the lines of a block scalar. Answers its text, the end of its last line, the
empty lines after it, and the text after it. -/
def readLines (isLiteral : Bool) (indent : Nat) :
    Nat → List Char → List Char → List Char → Bool → List Spot →
      Option (List Char × List Char × List Char × List Spot)
  | 0, _, _, _, _, _ => none
  | fuel + 1, done, lineEnd, emptyLines, leadingBlank, text =>
    match text with
    | [] => some (done, lineEnd, emptyLines, [])
    | spot :: _ =>
      if spot.column ≠ indent then some (done, lineEnd, emptyLines, text)
      else do
        let blank := isBlank spot.char
        let line := text.takeWhile fun spot => !isBreak spot.char
        let after := text.dropWhile fun spot => !isBreak spot.char
        let done := done ++ lineJoin isLiteral leadingBlank blank lineEnd emptyLines ++
          line.map Spot.char
        match after with
        | [] => some (done, [], [], [])
        | lineEnd :: rest => do
          let (emptyLines, _, rest) ← readIndent (some indent) [] 0 rest
          readLines isLiteral indent fuel done [lineEnd.char] emptyLines blank rest

/-- Reads a block scalar whose mark has been read. Its lines stand right of the given
column. -/
def readBlock (isLiteral : Bool) (least : Nat) (text : List Spot) : Option ReadScalar := do
  let (chomping, increment, text) ← readHeader text
  let text ← finishHeader text
  let given := increment.map fun increment => max least 1 - 1 + increment
  let (emptyLines, widest, text) ← readIndent given [] 0 text
  let indent := given.getD (max (max widest least) 1)
  let (done, lineEnd, emptyLines, rest) ←
    readLines isLiteral indent (text.length + 1) [] [] emptyLines false text
  let tail := match chomping with
    | .strip => []
    | .clip => lineEnd
    | .keep => lineEnd ++ emptyLines
  some ⟨done ++ tail, rest, true⟩

end DocumentGateway.Yaml

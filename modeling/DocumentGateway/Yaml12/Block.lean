import DocumentGateway.Yaml12.Text

/-!
# Block scalars

A block scalar consists of the lines after its mark that are indented. A literal one
keeps its line ends, and a folded one reads a single line end between two lines that
begin without a blank as a space. Behind the mark may stand how far the lines are
indented and what becomes of the line ends behind the last line.
-/
namespace DocumentGateway.Yaml12

/-- What becomes of the line ends behind the last line: none stays, the first one stays,
or all stay. -/
inductive Chomping where
  | strip
  | clip
  | keep
  deriving DecidableEq, Repr

/-- What stands behind the mark of a block scalar. -/
structure BlockHeader where
  chomping : Chomping := .clip
  indentation : Option Nat := none

/-- The chomping of a sign. -/
def chompingOf? (c : Char) : Option Chomping :=
  if c = '+' then some .keep else if c = '-' then some .strip else none

/-- The indentation of a digit, which is not zero. -/
def indentationOf? (c : Char) : Option Nat :=
  if '1' ≤ c ∧ c ≤ '9' then some (c.toNat - '0'.toNat) else none

/-- Reads what stands directly behind the mark. A zero is refused later, as it is no
blank. -/
def readBlockHeader (text : List Spot) : BlockHeader × List Spot :=
  match chompingOf? (headChar text), indentationOf? (headChar text) with
  | some chomping, _ =>
    match indentationOf? (charAt text 1) with
    | some indentation => (⟨chomping, some indentation⟩, text.drop 2)
    | none => (⟨chomping, none⟩, text.drop 1)
  | none, some indentation =>
    match chompingOf? (charAt text 1) with
    | some chomping => (⟨chomping, some indentation⟩, text.drop 2)
    | none => (⟨.clip, some indentation⟩, text.drop 1)
  | none, none => ({}, text)

/-- Leaves out the empty lines at the beginning, and the spaces in front of the first line
that is not empty. Answers the rightmost column reached and the number of lines. -/
def skipFirstLines (rightmost breaks : Nat) : List Spot → Nat × Nat × List Spot
  | [] => (rightmost, breaks, [])
  | spot :: rest =>
    let rightmost := max rightmost spot.column
    if spot.char = ' ' then skipFirstLines rightmost breaks rest
    else if isBreak spot.char then skipFirstLines rightmost (breaks + 1) rest
    else (rightmost, breaks, spot :: rest)

/-- Leaves out empty lines and the spaces that indent a line. Answers the number of
lines. -/
def skipIndentation (indent breaks : Nat) : List Spot → Nat × List Spot
  | [] => (breaks, [])
  | spot :: rest =>
    if spot.char = ' ' && spot.column < indent then skipIndentation indent breaks rest
    else if isBreak spot.char then skipIndentation indent (breaks + 1) rest
    else (breaks, spot :: rest)

/-- A block scalar while its lines are read: its characters, whether a line has ended
behind them, the number of empty lines after that, and whether the last line begins with
a blank. -/
structure BlockLines where
  read : List Char := []
  broken : Bool := false
  breaks : Nat
  afterBlank : Bool := false

/-- The characters in front of a line. -/
def BlockLines.before (lines : BlockLines) (isLiteral startsBlank : Bool) : List Char :=
  if !isLiteral && lines.broken && !lines.afterBlank && !startsBlank then
    if lines.breaks = 0 then [' '] else lineFeeds lines.breaks
  else (if lines.broken then ['\n'] else []) ++ lineFeeds lines.breaks

/-- Reads the lines of a block scalar, which begin at the given column. The first argument
is not below the number of lines. -/
def readBlockLines (isLiteral : Bool) (indent : Nat) :
    Nat → BlockLines → List Spot → BlockLines × List Spot
  | 0, lines, text => (lines, text)
  | fuel + 1, lines, text =>
    let spot := headSpot text
    if spot.column ≠ indent || spot.char = '\x00' || (indent = 0 && isTriple '.' text) then
      (lines, text)
    else
      let startsBlank := isBlank spot.char
      let line := text.takeWhile fun spot => !isEnd spot.char
      let read := lines.read ++ lines.before isLiteral startsBlank ++ line.map Spot.char
      match text.dropWhile fun spot => !isEnd spot.char with
      | last :: rest =>
        if isBreak last.char then
          let (breaks, rest) := skipIndentation indent 0 rest
          readBlockLines isLiteral indent fuel ⟨read, true, breaks, startsBlank⟩ rest
        else (⟨read, false, 0, startsBlank⟩, last :: rest)
      | [] => (⟨read, false, 0, startsBlank⟩, [])

/-- The characters of a block scalar whose lines have been read, up to the given spot. At
the end of the text, a last line that is indented counts as ended. -/
def BlockLines.finish (lines : BlockLines) (chomping : Chomping) (indent : Nat) (spot : Spot) :
    List Char :=
  let ends := (if lines.broken then ['\n'] else []) ++
    (if spot.char = '\x00' && max indent 1 ≤ spot.column then ['\n'] else [])
  match chomping with
  | .strip => lines.read
  | .clip => lines.read ++ ends
  | .keep => lines.read ++ ends ++ lineFeeds lines.breaks

/-- The characters of a block scalar without lines at the end of the text, where `broken`
tells whether a line end follows its header. -/
def emptyBlock (chomping : Chomping) (onFirstLine broken : Bool) (breaks : Nat) : List Char :=
  let first := if broken then ['\n'] else []
  match chomping with
  | .strip => []
  | .clip => if onFirstLine then [] else first
  | .keep => if onFirstLine then [] else if breaks = 0 then first else lineFeeds breaks

/-- Reads a block scalar whose mark has been read, in a block that begins at the given
column. -/
def readBlock (isLiteral : Bool) (outer : Int) (text : List Spot) : Option (List Char × List Spot) := do
  let (header, rest) := readBlockHeader text
  let after ← skipLine false false rest
  let broken := isBreak (headChar after.text)
  if !isEnd (headChar after.text) then none
  let rest := if broken then after.text.drop 1 else after.text
  if headChar rest = '\t' then none
  let (indent, breaks, rest) := match header.indentation with
    | some indentation =>
      let indent := (max outer 0).toNat + indentation
      let (breaks, rest) := skipIndentation indent 0 rest
      (indent, breaks, rest)
    | none =>
      let (rightmost, breaks, rest) := skipFirstLines 0 0 rest
      (max rightmost (outer + 1).toNat, breaks, rest)
  let spot := headSpot rest
  if spot.char = '\x00' then
    some (emptyBlock header.chomping (spot.line = (headSpot text).line) broken breaks, rest)
  else if spot.column < indent && outer < spot.column then none
  else
    let (lines, rest) := readBlockLines isLiteral indent (rest.length + 1) { breaks } rest
    some (lines.finish header.chomping indent (headSpot rest), rest)

end DocumentGateway.Yaml12

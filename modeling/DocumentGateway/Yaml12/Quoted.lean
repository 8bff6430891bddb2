import DocumentGateway.Yaml12.Text

/-!
# Quoted scalars

Between single quotes every character stands for itself, and a quote is written twice.
Between double quotes a backslash begins an escape, and at the end of a line it takes
the line end out of the text. Line ends are read as in plain scalars.
-/
namespace DocumentGateway.Yaml12

/-- The character of an escape that has no digits. -/
def simpleEscape? (c : Char) : Option Char :=
  match c with
  | '0' => some '\x00'
  | 'a' => some '\x07'
  | 'b' => some '\x08'
  | 't' => some '\t'
  | '\t' => some '\t'
  | 'n' => some '\n'
  | 'v' => some '\x0b'
  | 'f' => some '\x0c'
  | 'r' => some '\r'
  | 'e' => some '\x1b'
  | ' ' => some ' '
  | '"' => some '"'
  | '/' => some '/'
  | '\\' => some '\\'
  | 'N' => some '\x85'
  | '_' => some '\xA0'
  | 'L' => some '\u2028'
  | 'P' => some '\u2029'
  | _ => none

/-- The number of digits of an escape by code point. -/
def escapeDigits? (c : Char) : Option Nat :=
  match c with
  | 'x' => some 2
  | 'u' => some 4
  | 'U' => some 8
  | _ => none

/-- The value of a hexadecimal digit. -/
def hexDigit? (c : Char) : Option Nat :=
  if '0' ≤ c ∧ c ≤ '9' then some (c.toNat - '0'.toNat)
  else if 'a' ≤ c ∧ c ≤ 'f' then some (c.toNat - 'a'.toNat + 10)
  else if 'A' ≤ c ∧ c ≤ 'F' then some (c.toNat - 'A'.toNat + 10)
  else none

/-- The character with a code point, if there is one. -/
def character? (code : Nat) : Option Char :=
  if code < 0xD800 ∨ (0xDFFF < code ∧ code < 0x110000) then some (Char.ofNat code) else none

/-- Reads a fixed number of hexadecimal digits. -/
def readHexDigits : Nat → Nat → List Spot → Option (Nat × List Spot)
  | 0, code, text => some (code, text)
  | count + 1, code, spot :: rest =>
    match hexDigit? spot.char with
    | some digit => readHexDigits count (code * 16 + digit) rest
    | none => none
  | _, _, [] => none

/-- Reads an escape whose backslash has been read. -/
def readEscape : List Spot → Option (Char × List Spot)
  | [] => none
  | spot :: rest =>
    match escapeDigits? spot.char with
    | some count => do
      let (code, rest) ← readHexDigits count 0 rest
      let c ← character? code
      some (c, rest)
    | none => (simpleEscape? spot.char).map fun c => (c, rest)

/-- Reads the characters up to the next blank, line end or closing quote. Answers them,
whether a line end was taken out behind them, and the text after them. The first
argument is not below the length of the text. -/
def readQuotedWord (isDouble : Bool) : Nat → List Spot → Option (List Char × Bool × List Spot)
  | 0, text => some ([], false, text)
  | fuel + 1, text =>
    match text with
    | [] => some ([], false, [])
    | spot :: rest =>
      let goOn := fun (c : Char) (rest : List Spot) =>
        (readQuotedWord isDouble fuel rest).map fun (word, joined, rest) => (c :: word, joined, rest)
      if isGap spot.char then some ([], false, text)
      else if !isDouble then
        if spot.char = '\'' then
          if headChar rest = '\'' then goOn '\'' (rest.drop 1) else some ([], false, text)
        else goOn spot.char rest
      else if spot.char = '"' then some ([], false, text)
      else if spot.char = '\\' then
        if isBreak (headChar rest) then some ([], true, rest.drop 1)
        else match readEscape rest with
          | some (c, rest) => goOn c rest
          | none => none
      else goOn spot.char rest

/-- What stands between two words of a quoted scalar: the blanks, whether a line has
ended, and how many line ends came after that. A line end that was taken out counts as
one that leaves nothing. -/
structure QuotedGap where
  blanks : List Char := []
  joined : Bool := false
  broken : Bool := false
  furtherBreaks : Nat := 0

/-- The characters that a gap stands for. -/
def QuotedGap.characters (gap : QuotedGap) : List Char :=
  if gap.broken then if gap.furtherBreaks = 0 then [' '] else lineFeeds gap.furtherBreaks
  else if gap.joined then lineFeeds gap.furtherBreaks
  else gap.blanks

/-- Reads the gap behind a word. A tab left of the given column may not begin a line. -/
def readQuotedGap (indent : Int) (gap : QuotedGap) : List Spot → Option (QuotedGap × List Spot)
  | [] => some (gap, [])
  | spot :: rest =>
    if isBlank spot.char then
      if gap.joined || gap.broken then
        if spot.char = '\t' && spot.column < indent then none else readQuotedGap indent gap rest
      else readQuotedGap indent { gap with blanks := gap.blanks ++ [spot.char] } rest
    else if isBreak spot.char then
      if gap.joined || gap.broken then
        readQuotedGap indent { gap with furtherBreaks := gap.furtherBreaks + 1 } rest
      else readQuotedGap indent { gap with broken := true } rest
    else some (gap, spot :: rest)

/-- Reads a quoted scalar whose opening quote has been read, up to and with its closing
quote. Its lines must not begin left of the given column. The first argument is not below
the length of the text. -/
def readQuotedFrom (isDouble : Bool) (indent : Int) :
    Nat → List Char → List Spot → Option (List Char × List Spot)
  | 0, _, _ => none
  | fuel + 1, read, text =>
    if atDocumentMark text || headChar text = '\x00' || (headSpot text).column < indent then none
    else match readQuotedWord isDouble text.length text with
      | none => none
      | some (word, joined, rest) =>
        if headChar rest = (if isDouble then '"' else '\'') then some (read ++ word, rest.drop 1)
        else match readQuotedGap indent { joined } rest with
          | none => none
          | some (gap, rest) => readQuotedFrom isDouble indent fuel (read ++ word ++ gap.characters) rest

/-- Whether a character may follow a quoted scalar and the blanks behind it. A colon may,
where the scalar can be a key. -/
def mayFollowQuoted (inFlow onOneLine : Bool) (c : Char) : Bool :=
  isEnd c || (inFlow && (c = ',' || c = '}' || c = ']' || c = ':')) || (!inFlow && onOneLine && c = ':')

/-- Reads a quoted scalar that begins at the first spot of the text. -/
def readQuoted (isDouble inFlow : Bool) (indent : Int) (text : List Spot) :
    Option (List Char × List Spot) := do
  let (read, rest) ← readQuotedFrom isDouble indent (text.length + 1) [] (text.drop 1)
  let after ← skipLine false false rest
  let onOneLine := (headSpot text).line = (headSpot after.text).line
  if mayFollowQuoted inFlow onOneLine (headChar after.text) then some (read, after.text) else none

end DocumentGateway.Yaml12

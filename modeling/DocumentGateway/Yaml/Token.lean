import DocumentGateway.Yaml.Text

/-!
# Tokens of a YAML text

Indentation is turned into tokens here: a list or a section of a block begins with a
token of its own at the column of its first entry, and it ends where a line begins left
of that column. Whether a scalar is a key shows only at the colon after it. The place of
every scalar that may be a key is therefore kept, and the key's token is put there
afterwards. A key has to stand on one line together with its colon.
-/
namespace DocumentGateway.Yaml

/-- The pieces of structure in a text. -/
inductive Token where
  | documentStart
  | documentEnd
  | listStart
  | sectionStart
  | blockEnd
  | flowListStart
  | flowListEnd
  | flowSectionStart
  | flowSectionEnd
  | blockEntry
  | flowEntry
  | key
  | value
  | scalar (isPlain : Bool) (text : List Char)
  deriving DecidableEq, Repr

/-- The place of what may turn out to be a key: the number of tokens before it, and its
spot. A place is required to be a key when nothing else may stand in its column. -/
structure KeyPlace where
  number : Nat
  line : Nat
  column : Nat
  distance : Nat
  required : Bool

/-- The state of reading tokens: the text to come, the tokens so far with the latest
first, the columns of the open blocks with the innermost first, the possible key at each
level of brackets with the innermost first, and whether a key may begin here. -/
structure Scan where
  text : List Spot
  tokens : List Token
  indents : List Nat
  places : List (Option KeyPlace)
  keyAllowed : Bool

namespace Scan

/-- The state at the beginning of a text. -/
def start (text : List Spot) : Scan :=
  ⟨text, [], [], [none], true⟩

/-- Whether the text stands within brackets. -/
def inFlow (scan : Scan) : Bool :=
  1 < scan.places.length

/-- The least column of the lines that belong to the innermost block. -/
def least (scan : Scan) : Nat :=
  match scan.indents with
  | [] => 0
  | indent :: _ => indent + 1

/-- Adds a token. -/
def emit (scan : Scan) (token : Token) : Scan :=
  { scan with tokens := token :: scan.tokens }

/-- Adds a token behind the given number of tokens. -/
def emitAt (scan : Scan) (number : Nat) (token : Token) : Scan :=
  let later := scan.tokens.length - number
  { scan with tokens := scan.tokens.take later ++ token :: scan.tokens.drop later }

/-- Goes on behind the given number of characters. -/
def skip (scan : Scan) (count : Nat) : Scan :=
  { scan with text := scan.text.drop count }

/-- Ends the blocks that begin right of a column. -/
def closeTo (column : Nat) (tokens : List Token) : List Nat → List Token × List Nat
  | [] => (tokens, [])
  | indent :: rest =>
    if column < indent then closeTo column (.blockEnd :: tokens) rest else (tokens, indent :: rest)

/-- Ends blocks before a token at the given column. Brackets suspend indentation. -/
def unroll (scan : Scan) (column : Nat) : Scan :=
  if scan.inFlow then scan
  else
    let (tokens, indents) := closeTo column scan.tokens scan.indents
    { scan with tokens, indents }

/-- Ends all blocks. -/
def unrollAll (scan : Scan) : Scan :=
  { scan with tokens := scan.indents.map (fun _ => Token.blockEnd) ++ scan.tokens, indents := [] }

/-- Begins a block at a column that lies right of the innermost block. The token goes
behind the given number of tokens. -/
def roll (scan : Scan) (column number : Nat) (token : Token) : Scan :=
  if scan.inFlow || column < scan.least then scan
  else { scan.emitAt number token with indents := column :: scan.indents }

/-- Forgets the possible key of this level, unless it is required. -/
def forgetKey (scan : Scan) : Option Scan :=
  match scan.places with
  | some place :: rest => if place.required then none else some { scan with places := none :: rest }
  | _ => some scan

/-- Keeps the place before a token that may be a key. -/
def saveKey (scan : Scan) (spot : Spot) : Option Scan :=
  if scan.keyAllowed then
    scan.forgetKey.map fun scan =>
      let required := !scan.inFlow && scan.indents.head? = some spot.column
      let place : KeyPlace := ⟨scan.tokens.length, spot.line, spot.column, spot.distance, required⟩
      { scan with places := some place :: scan.places.drop 1 }
  else some scan

/-- The longest distance between a key and its colon. -/
def maxKeyDistance : Nat := 1024

/-- Whether a place can still be a key at a later spot. -/
def KeyPlace.isOpen (place : KeyPlace) (spot : Spot) : Bool :=
  place.line = spot.line && spot.distance ≤ place.distance + maxKeyDistance

/-- Reads the colon before a value whose key has no token yet or a token of its own. -/
def readValueAlone (scan : Scan) (spot : Spot) : Option Scan :=
  if scan.inFlow then some ({ scan with keyAllowed := false }.emit .value |>.skip 1)
  else if scan.keyAllowed then
    some ((scan.roll spot.column scan.tokens.length .sectionStart).emit .value |>.skip 1)
  else none

/-- Reads the colon before a value. -/
def readValue (scan : Scan) (spot : Spot) : Option Scan :=
  match scan.places with
  | some place :: rest =>
    let scan := { scan with places := none :: rest }
    if KeyPlace.isOpen place spot then
      let scan := (scan.emitAt place.number .key).roll place.column place.number .sectionStart
      some ({ scan with keyAllowed := false }.emit .value |>.skip 1)
    else if place.required then none
    else readValueAlone scan spot
  | _ => readValueAlone scan spot

/-- Reads the dash before an item of a block, or the question mark before a key. -/
def readEntry (scan : Scan) (spot : Spot) (startToken entryToken : Token) (keyAfter : Bool) :
    Option Scan :=
  if !scan.inFlow && !scan.keyAllowed then none
  else
    (scan.roll spot.column scan.tokens.length startToken).forgetKey.map fun scan =>
      { scan with keyAllowed := keyAfter }.emit entryToken |>.skip 1

/-- Reads an opening bracket. -/
def openFlow (scan : Scan) (spot : Spot) (token : Token) : Option Scan :=
  (scan.saveKey spot).map fun scan =>
    { scan with places := none :: scan.places, keyAllowed := true }.emit token |>.skip 1

/-- Reads a closing bracket. -/
def closeFlow (scan : Scan) (token : Token) : Option Scan :=
  scan.forgetKey.map fun scan =>
    let places := if scan.inFlow then scan.places.drop 1 else scan.places
    { scan with places, keyAllowed := false }.emit token |>.skip 1

/-- Adds a scalar that has been read. -/
def addScalar (scan : Scan) (isPlain : Bool) (read : ReadScalar) : Scan :=
  { scan with text := read.rest, keyAllowed := read.newLine }.emit (.scalar isPlain read.text)

/-- Reads the mark of a document. -/
def readDocumentMark (scan : Scan) (isStart : Bool) : Option Scan :=
  scan.unrollAll.forgetKey.map fun scan =>
    let token := if isStart then Token.documentStart else Token.documentEnd
    { scan with keyAllowed := false }.emit token |>.skip 3

/-- Leaves out what stands between tokens. A new line outside brackets allows a key, and
a tab may not stand where a key may. A byte order mark may begin a line. -/
def skipGap (inFlow : Bool) : Bool → List Spot → Bool × List Spot
  | keyAllowed, [] => (keyAllowed, [])
  | keyAllowed, spot :: rest =>
    if spot.char = '\uFEFF' && spot.column = 0 then skipGap inFlow keyAllowed rest
    else if spot.char = ' ' || (spot.char = '\t' && (inFlow || !keyAllowed)) then
      skipGap inFlow keyAllowed rest
    else if isBreak spot.char then skipGap inFlow (keyAllowed || !inFlow) rest
    else (keyAllowed, spot :: rest)

/-- Leaves out gaps and comments. The first argument bounds the number of comments. -/
def skipToToken (inFlow : Bool) : Nat → Bool → List Spot → Bool × List Spot
  | 0, keyAllowed, text => skipGap inFlow keyAllowed text
  | fuel + 1, keyAllowed, text =>
    match skipGap inFlow keyAllowed text with
    | (keyAllowed, spot :: rest) =>
      if spot.char = '#' then skipToToken inFlow fuel keyAllowed (skipComment (spot :: rest))
      else (keyAllowed, spot :: rest)
    | finished => finished

/-- The characters that never begin a plain scalar by themselves. -/
def isIndicator (c : Char) : Bool :=
  ['-', '?', ':', ',', '[', ']', '{', '}', '#', '&', '*', '!', '|', '>', '\'', '"', '%', '@',
    '\x60'].contains c

/-- Whether a plain scalar begins at a spot. -/
def beginsPlain (inFlow : Bool) (spot : Spot) (rest : List Spot) : Bool :=
  if spot.char = '-' then !(rest.head?.any fun next => isBlank next.char)
  else if spot.char = '?' || spot.char = ':' then !inFlow && !atGap rest
  else !isIndicator spot.char && !atGap (spot :: rest)

/-- Reads the token that begins at a spot. -/
def readToken (scan : Scan) (spot : Spot) (rest : List Spot) : Option Scan :=
  let bound := scan.text.length + 1
  match atDocumentMark scan.text with
  | some isStart => scan.readDocumentMark isStart
  | none =>
    match spot.char with
    | '[' => scan.openFlow spot .flowListStart
    | '{' => scan.openFlow spot .flowSectionStart
    | ']' => scan.closeFlow .flowListEnd
    | '}' => scan.closeFlow .flowSectionEnd
    | ',' => scan.forgetKey.map fun scan =>
        { scan with keyAllowed := true }.emit .flowEntry |>.skip 1
    | '"' => do
        let scan ← scan.saveKey spot
        let read ← readQuoted true bound [] rest
        some (scan.addScalar false read)
    | '\'' => do
        let scan ← scan.saveKey spot
        let read ← readQuoted false bound [] rest
        some (scan.addScalar false read)
    | c =>
      if c = '-' && atGap rest then scan.readEntry spot .listStart .blockEntry true
      else if c = '?' && (scan.inFlow || atGap rest) then
        scan.readEntry spot .sectionStart .key (!scan.inFlow)
      else if c = ':' && (scan.inFlow || atGap rest) then scan.readValue spot
      else if (c = '|' || c = '>') && !scan.inFlow then do
        let read ← readBlock (c = '|') scan.least rest
        let scan ← scan.forgetKey
        some (scan.addScalar false read)
      else if beginsPlain scan.inFlow spot rest then do
        let scan ← scan.saveKey spot
        let read ← readPlain scan.inFlow scan.least bound [] [] false scan.text
        some (scan.addScalar true read)
      else none

/-- Reads all tokens. The first argument bounds their number. -/
def run : Nat → Scan → Option (List Token)
  | 0, _ => none
  | fuel + 1, scan =>
    let (keyAllowed, text) := skipToToken scan.inFlow scan.text.length scan.keyAllowed scan.text
    let scan := { scan with keyAllowed, text }
    match text with
    | [] => scan.unrollAll.forgetKey.map fun scan => scan.tokens.reverse
    | spot :: rest => ((scan.unroll spot.column).readToken spot rest).bind (run fuel)

end Scan

/-- The tokens of a text. -/
def tokens? (text : List Char) : Option (List Token) :=
  (spots? text).bind fun spots => (Scan.start spots).run (spots.length + 2)

end DocumentGateway.Yaml

import DocumentGateway.Yaml12.Block
import DocumentGateway.Yaml12.Plain
import DocumentGateway.Yaml12.Tag

/-!
# Tokens of a YAML 1.2 text

Indentation is turned into tokens here: a list or a section of a block begins with a
token of its own at the column of its first entry, and it ends where a line begins left
of that column. Whether a scalar is a key shows only at the colon after it. The place of
every node that may be a key is therefore kept, and the key's token is put there
afterwards.

What stands behind the colon of an entry or on the line after a dash belongs to that
entry only if it is indented by one more column. Such a column is kept among those of
the blocks, but no block begins with it. An entry of a list in brackets that has a colon
becomes a section of its own, unless it is known already that a section has begun.
-/
namespace DocumentGateway.Yaml12

/-- The pieces of structure in a text. -/
inductive Token where
  | directive (directive : Directive)
  | documentStart
  | documentEnd
  | listStart
  | sectionStart
  | blockEnd
  | flowListStart
  | flowListEnd
  | flowSectionStart
  | flowSectionEnd
  | blockEntry
  | flowEntry
  | key
  | value
  | alias (name : String)
  | anchor (name : String)
  | tag (tag : WrittenTag)
  | scalar (isPlain : Bool) (text : String)
  deriving DecidableEq, Repr

/-- The place of what may turn out to be a key: the number of tokens before it, and its
spot. A place is required to be a key when nothing else may stand in its column. -/
structure KeyPlace where
  number : Nat
  line : Nat
  column : Nat
  distance : Nat
  required : Bool

/-- A column around the innermost one, and whether a block began when the column after it
was taken up. -/
structure OuterColumn where
  column : Int
  beginsBlock : Bool

/-- The state of reading tokens: the text to come; the tokens so far with the latest
first, and whether the latest is a tag or an anchor at the beginning of a line; the
innermost column and those around it; the possible key at each level of brackets with
the innermost first; whether a key may begin here; where a colon may follow a key
directly; whether a section in brackets has begun; and, for each list in brackets, whether
it is within an entry with a colon. -/
structure Scan where
  text : List Spot
  tokens : List Token
  atMargin : Bool
  column : Int
  outer : List OuterColumn
  places : List (Option KeyPlace)
  keyAllowed : Bool
  adjacentAt : Nat
  sectionBegun : Bool
  listEntries : List Bool

namespace Scan

/-- The state at the beginning of a text. -/
def start (text : List Spot) : Scan :=
  { text, tokens := [], atMargin := false, column := -1, outer := [], places := [none],
    keyAllowed := true, adjacentAt := 0, sectionBegun := false, listEntries := [] }

/-- The spot at which the text to come begins. -/
def spot (scan : Scan) : Spot :=
  headSpot scan.text

/-- Whether the text stands within brackets. -/
def inFlow (scan : Scan) : Bool :=
  1 < scan.places.length

/-- Adds a token. -/
def emit (scan : Scan) (token : Token) : Scan :=
  { scan with tokens := token :: scan.tokens, atMargin := false }

/-- Adds a token behind the given number of tokens. -/
def emitAt (scan : Scan) (number : Nat) (token : Token) : Scan :=
  let later := scan.tokens.length - number
  { scan with tokens := scan.tokens.take later ++ token :: scan.tokens.drop later }

/-- Goes on with the given text. -/
def goOn (scan : Scan) (text : List Spot) : Scan :=
  { scan with text }

/-- Goes on behind the given number of characters. -/
def skip (scan : Scan) (count : Nat) : Scan :=
  { scan with text := scan.text.drop count }

/-! ## Columns -/

/-- Gives up columns right of the given one, which ends the blocks that began with
them. -/
def closeTo (least : Int) (tokens : List Token) (column : Int) :
    List OuterColumn → List Token × Int × List OuterColumn
  | [] => (tokens, column, [])
  | last :: outer =>
    if least < column then
      closeTo least (if last.beginsBlock then .blockEnd :: tokens else tokens) last.column outer
    else (tokens, column, last :: outer)

/-- Ends the blocks right of a column. Brackets suspend indentation. -/
def unroll (scan : Scan) (least : Int) : Scan :=
  if scan.inFlow || scan.column ≤ least then scan
  else
    let (tokens, column, outer) := closeTo least scan.tokens scan.column scan.outer
    { scan with tokens, column, outer,
                atMargin := scan.atMargin && tokens.length = scan.tokens.length }

/-- Whether the innermost column is one with which a block began. -/
def inBlockColumn (scan : Scan) : Bool :=
  scan.outer.head?.any OuterColumn.beginsBlock

/-- Gives up the innermost columns with which no block began. -/
def unrollExtra (scan : Scan) : Scan :=
  match scan.outer with
  | last :: outer =>
    if last.beginsBlock then scan else unrollTo last.column outer
  | [] => scan
where
  unrollTo (column : Int) : List OuterColumn → Scan
    | [] => { scan with column, outer := [] }
    | last :: outer =>
      if last.beginsBlock then { scan with column, outer := last :: outer }
      else unrollTo last.column outer

/-- Takes up one more column than that of the innermost block. -/
def rollExtra (scan : Scan) : Scan :=
  if !scan.inFlow && scan.inBlockColumn then
    { scan with column := scan.column + 1, outer := ⟨scan.column, false⟩ :: scan.outer }
  else scan

/-- Gives up the innermost column if no block began with it and it is not right of the
given one. -/
def dropExtra (scan : Scan) (column : Int) : Scan :=
  match scan.outer with
  | last :: outer =>
    if scan.column ≤ column && !last.beginsBlock then { scan with column := last.column, outer }
    else scan
  | [] => scan

/-- Begins a block at a column that lies right of the innermost one. The token goes behind
the given number of tokens. -/
def roll (scan : Scan) (column : Nat) (number : Nat) (token : Token) : Scan :=
  if scan.inFlow then scan
  else
    let scan := scan.dropExtra column
    if scan.column < column then
      { scan.emitAt number token with
        column := column, outer := ⟨scan.column, true⟩ :: scan.outer }
    else scan

/-! ## Possible keys -/

/-- Forgets the possible key of this level, unless it is required. -/
def forgetKey (scan : Scan) : Option Scan :=
  match scan.places with
  | some place :: rest => if place.required then none else some { scan with places := none :: rest }
  | _ => some scan

/-- Keeps the place before a node that may be a key. -/
def saveKey (scan : Scan) : Scan :=
  if scan.keyAllowed then
    let spot := scan.spot
    let required := !scan.inFlow && scan.column = spot.column && scan.inBlockColumn
    let place : KeyPlace := ⟨scan.tokens.length, spot.line, spot.column, spot.distance, required⟩
    { scan with places := some place :: scan.places.drop 1 }
  else scan

/-- The longest distance between a key and its colon. -/
def maxKeyDistance : Nat := 1024

/-- Whether a place can no longer be a key. -/
def KeyPlace.isStale (place : KeyPlace) (spot : Spot) : Bool :=
  place.line < spot.line || place.distance + maxKeyDistance < spot.distance

/-- Forgets the possible keys that are too far away. Within brackets none is. -/
def forgetStaleKeys (scan : Scan) : Option Scan :=
  if scan.inFlow then some scan
  else match scan.places with
    | [some place] =>
      if KeyPlace.isStale place scan.spot then
        if place.required then none else some { scan with places := [none] }
      else some scan
    | _ => some scan

/-! ## Gaps between tokens -/

/-- Leaves out what stands between tokens. A new line outside brackets allows a key. A tab
left of the innermost column may only stand on a line without a token. The first argument
is not below the length of the text. -/
def skipGap (inFlow inBlock : Bool) (column : Int) : Nat → Bool → List Spot → Option (Bool × List Spot)
  | 0, keyAllowed, text => some (keyAllowed, text)
  | fuel + 1, keyAllowed, text =>
    match text with
    | [] => some (keyAllowed, [])
    | spot :: rest =>
      if spot.char = '\t' && inBlock && spot.leads && spot.column < column then
        match skipTabbedLine text with
        | some rest => skipGap inFlow inBlock column fuel keyAllowed rest
        | none => none
      else if isBlank spot.char then skipGap inFlow inBlock column fuel keyAllowed rest
      else if isBreak spot.char then skipGap inFlow inBlock column fuel (keyAllowed || !inFlow) rest
      else if spot.char = '#' then skipGap inFlow inBlock column fuel keyAllowed (skipComment rest)
      else some (keyAllowed, text)

/-- Goes on with the next token. -/
def skipToToken (scan : Scan) : Option Scan :=
  (skipGap scan.inFlow (!scan.outer.isEmpty) scan.column scan.text.length scan.keyAllowed scan.text).map
    fun (keyAllowed, text) => { scan with keyAllowed, text }

/-- Goes on behind the blanks and the comment on this line. -/
def skipRest (scan : Scan) : Option Scan :=
  (skipLine false false scan.text).map fun after => scan.goOn after.text

/-! ## Entries -/

/-- Ends the entry with a colon of a list in brackets, if the text stands in one. -/
def endListEntry (scan : Scan) : Scan :=
  match scan.listEntries with
  | true :: rest => { scan.emit .flowSectionEnd with sectionBegun := false, listEntries := false :: rest }
  | _ => scan

/-- The deepest nesting of brackets. -/
def maxFlowDepth : Nat := 255

/-- Reads an opening bracket. -/
def openFlow (scan : Scan) (isSection : Bool) : Option Scan :=
  let scan := scan.saveKey.rollExtra
  if maxFlowDepth < scan.places.length then none
  else
    let scan := { scan with places := none :: scan.places, keyAllowed := true }
    let scan :=
      if isSection then { scan with sectionBegun := true }
      else { scan with listEntries := false :: scan.listEntries }
    (scan.skip 1).skipRest.map fun scan =>
      scan.emit (if isSection then .flowSectionStart else .flowListStart)

/-- Reads a closing bracket. -/
def closeFlow (scan : Scan) (isSection : Bool) : Option Scan := do
  let scan ← scan.forgetKey
  let scan := { scan with places := if scan.inFlow then scan.places.drop 1 else scan.places, keyAllowed := false }
  let scan :=
    if isSection then scan
    else
      let ended := scan.endListEntry
      { ended with listEntries := ended.listEntries.drop 1 }
  let scan ← (scan.skip 1).skipRest
  let scan := if scan.inFlow then { scan with adjacentAt := scan.spot.distance } else scan
  some (scan.emit (if isSection then .flowSectionEnd else .flowListEnd))

/-- Reads a comma. -/
def readFlowEntry (scan : Scan) : Option Scan := do
  let scan ← scan.forgetKey
  let scan ← ({ scan with keyAllowed := true }.endListEntry.skip 1).skipRest
  some (scan.emit .flowEntry)

/-- Reads the dash before an item of a block. Tabs may not separate it from another
dash. -/
def readBlockEntry (scan : Scan) : Option Scan := do
  let spot := scan.spot
  if scan.inFlow || !scan.keyAllowed then none
  else if scan.atMargin && spot.column = 0 && 0 ≤ scan.column then none
  else
    let scan := (scan.skip 1).roll spot.column scan.tokens.length .listStart
    let after ← skipLine false false scan.text
    if after.hasTab && charAt after.text 0 = '-' && isGap (charAt after.text 1) then none
    else
      let scan := scan.goOn after.text
      let next := headChar scan.text
      let scan := if isBreak next || isFlowMark next then scan.rollExtra else scan
      let scan ← scan.forgetKey
      some ({ scan with keyAllowed := true }.emit .blockEntry)

/-- Leaves out what stands behind the question mark before a key: spaces, line ends and
comments. Answers whether a key may begin there. There has to be a space or a line end.
The first argument is not below the length of the text. -/
def skipBehindMark (inFlow : Bool) : Nat → Bool → Bool → List Spot → Option (Bool × List Spot)
  | 0, _, _, _ => none
  | fuel + 1, separated, keyAllowed, text =>
    let spot := headSpot text
    if spot.char = ' ' then skipBehindMark inFlow fuel true keyAllowed (text.drop 1)
    else if isBreak spot.char then skipBehindMark inFlow fuel true (keyAllowed || !inFlow) (text.drop 1)
    else if spot.char = '#' then skipBehindMark inFlow fuel separated keyAllowed (skipComment text)
    else if separated && spot.char ≠ '\t' then some (keyAllowed, text)
    else none

/-- Reads the question mark before a key. -/
def readKey (scan : Scan) : Option Scan := do
  if !scan.inFlow && !scan.keyAllowed then none
  else
    let scan :=
      if scan.inFlow then { scan with sectionBegun := true }
      else scan.roll scan.spot.column scan.tokens.length .sectionStart
    let scan ← scan.forgetKey
    let (keyAllowed, text) ←
      skipBehindMark scan.inFlow (scan.text.length + 1) false (!scan.inFlow) (scan.text.drop 1)
    some ({ scan with keyAllowed, text }.emit .key)

/-- The text behind a colon. When a tab follows directly and no space comes after it, no
word may follow. -/
def skipColon (text : List Spot) : Option (List Spot) :=
  if headChar text = '\t' then
    match skipLine false false text with
    | some after =>
      if !after.hasSpace && isWordCharacter (headChar after.text) then none else some after.text
    | none => none
  else some text

/-- Reads the colon before a value, behind a key that has a token of its own or none. -/
def readValueAlone (scan : Scan) (spot : Spot) (inListEntry : Bool) : Option Scan :=
  let scan := if inListEntry then scan.emit .flowSectionStart else scan
  if scan.inFlow then some ({ scan with keyAllowed := false }.emit .value)
  else if scan.keyAllowed then
    some ({ (scan.roll spot.column scan.tokens.length .sectionStart).rollExtra with
      keyAllowed := true }.emit .value)
  else none

/-- Reads the colon before a value. -/
def readValue (scan : Scan) : Option Scan := do
  let spot := scan.spot
  let inListEntry := !scan.listEntries.isEmpty && !scan.sectionBegun
  let scan := if inListEntry then { scan with listEntries := true :: scan.listEntries.drop 1 } else scan
  let scan := scan.goOn (← skipColon (scan.text.drop 1))
  match scan.places with
  | some place :: rest =>
    if inListEntry && place.line < spot.line then none
    else
      let scan := scan.emitAt place.number .key
      let scan := if inListEntry then scan.emitAt place.number .flowSectionStart else scan
      let scan := (scan.roll place.column place.number .sectionStart).rollExtra
      some ({ scan with places := none :: rest, keyAllowed := false }.emit .value)
  | _ => scan.readValueAlone spot inListEntry

/-! ## Other tokens -/

/-- Reads a scalar in quotes. A colon may then follow directly. -/
def readQuotedScalar (scan : Scan) (isDouble : Bool) : Option Scan := do
  let scan := { scan.saveKey with keyAllowed := false }
  let (read, text) ← readQuoted isDouble scan.inFlow scan.column scan.text
  let scan ← (scan.goOn text).skipToToken
  some ({ scan with adjacentAt := scan.spot.distance }.emit (.scalar false (String.ofList read)))

/-- Reads a plain scalar. When the text has come to a new line behind it, a key may
begin. -/
def readPlainScalar (scan : Scan) : Option Scan := do
  let scan := { scan.saveKey with keyAllowed := false }.unrollExtra
  let (read, text) ← readPlain scan.inFlow (scan.column + 1) scan.text
  let scan := { scan with text, keyAllowed := (headSpot text).leads }
  some (scan.emit (.scalar true (String.ofList read)))

/-- Reads a block scalar. -/
def readBlockScalar (scan : Scan) (isLiteral : Bool) : Option Scan := do
  let scan := { scan.saveKey with keyAllowed := true }.unrollExtra
  let (read, text) ← readBlock isLiteral scan.column (scan.text.drop 1)
  some ((scan.goOn text).emit (.scalar false (String.ofList read)))

/-- Adds a tag or an anchor that begins at the given spot. -/
def emitProperty (scan : Scan) (spot : Spot) (token : Token) (text : List Spot) : Scan :=
  { (scan.goOn text).emit token with atMargin := spot.column = 0 }

/-- Reads an anchor or an alias. -/
def readReference (scan : Scan) (isAlias : Bool) : Option Scan :=
  let spot := scan.spot
  let scan := { scan.saveKey with keyAllowed := false }
  (readAnchor (scan.text.drop 1)).map fun (name, text) =>
    if isAlias then (scan.goOn text).emit (.alias name) else scan.emitProperty spot (.anchor name) text

/-- Reads a tag. -/
def readTagToken (scan : Scan) : Option Scan :=
  let spot := scan.spot
  let scan := { scan.saveKey with keyAllowed := false }
  (readTag scan.inFlow scan.text).map fun (tag, text) => scan.emitProperty spot (.tag tag) text

/-- Ends all blocks before a mark that stands between documents. -/
def endDocument (scan : Scan) : Option Scan :=
  (scan.unroll (-1)).forgetKey.map fun scan => { scan with keyAllowed := false }

/-- Reads what may stand at the beginning of a line outside documents: a directive or the
mark of a document. -/
def readMargin? (scan : Scan) : Option (Option Scan) :=
  if scan.spot.column ≠ 0 then none
  else if scan.spot.char = '%' then
    some (do
      let scan ← scan.endDocument
      let (directive, text) ← readDirective (scan.text.drop 1)
      some ((scan.goOn text).emit (.directive directive)))
  else if isTriple '-' scan.text then
    some (scan.endDocument.map fun scan => (scan.skip 3).emit .documentStart)
  else if isTriple '.' scan.text then
    some (do
      let scan ← scan.endDocument
      let scan ← ((scan.skip 3).emit .documentEnd).skipRest
      if isEnd (headChar scan.text) then some scan else none)
  else none

/-- Reads the token that begins here. -/
def readToken (scan : Scan) : Option Scan :=
  let next := charAt scan.text 1
  let inFlow := scan.inFlow
  match headChar scan.text with
  | '[' => scan.openFlow false
  | '{' => scan.openFlow true
  | ']' => scan.closeFlow false
  | '}' => scan.closeFlow true
  | ',' => scan.readFlowEntry
  | '*' => scan.readReference true
  | '&' => scan.readReference false
  | '!' => scan.readTagToken
  | '\'' => scan.readQuotedScalar false
  | '"' => scan.readQuotedScalar true
  | '%' => none
  | '@' => none
  | '\x60' => none
  | c =>
    if c = '-' && isGap next then scan.readBlockEntry
    else if c = '?' && isGap next then scan.readKey
    else if c = ':' && (isGap next ||
        (inFlow && (isFlowMark next || scan.spot.distance = scan.adjacentAt))) then scan.readValue
    else if c = '|' && !inFlow then scan.readBlockScalar true
    else if c = '>' && !inFlow then scan.readBlockScalar false
    else scan.readPlainScalar

/-- Ends the text. -/
def finish (scan : Scan) : Option (List Token) :=
  match scan.places with
  | places =>
    if places.any fun place => place.any KeyPlace.required then none
    else some (({ scan with places := places.map fun _ => none }.unroll (-1)).tokens.reverse)

/-- Reads all tokens. The first argument bounds their number. -/
def run : Nat → Scan → Option (List Token)
  | 0, _ => none
  | fuel + 1, scan => do
    let scan ← scan.skipToToken
    let scan ← scan.forgetStaleKeys
    let scan := scan.unroll scan.spot.column
    if scan.spot.char = '\x00' then scan.finish
    else match scan.readMargin? with
      | some read => (← read).run fuel
      | none => if scan.spot.column < scan.column then none else (← scan.readToken).run fuel

end Scan

/-- The tokens of a text. -/
def tokens? (text : List Char) : Option (List Token) :=
  let spots := spots text
  Scan.run (spots.length + 1) (Scan.start spots)

end DocumentGateway.Yaml12

import DocumentGateway.Yaml12.Quoted

/-!
# Tags, anchors and directives

A tag says what a scalar stands for. It is written with a handle and a suffix, or in
full between angle brackets. An anchor gives a name to a node, and an alias refers to
that node. A directive stands on a line of its own before a document; of those read
here only the tag directives have an effect.
-/
namespace DocumentGateway.Yaml12

/-- A tag as it is written: its handle and its suffix. A tag in full has no handle. -/
structure WrittenTag where
  handle : String
  suffix : String
  deriving DecidableEq, Repr

/-- Whether a character may stand in a tag between angle brackets. -/
def isUriCharacter (c : Char) : Bool :=
  (isWordCharacter c && c ≠ '_') || "#;/?:@&=+$,_.!~*'()[]%".toList.contains c

/-- Whether a character may stand in the suffix of a tag. -/
def isTagCharacter (c : Char) : Bool :=
  isUriCharacter c && !isFlowMark c && c ≠ '!'

/-- Whether a character may stand in the name of an anchor. -/
def isAnchorCharacter (c : Char) : Bool :=
  !isGap c && !isFlowMark c && c ≠ '\uFEFF'

/-- The number of bytes of an escaped character whose first byte is given. -/
def escapedWidth? (byte : Nat) : Option Nat :=
  if byte < 0x80 then some 1
  else if 0xC0 ≤ byte ∧ byte < 0xE0 then some 2
  else if 0xE0 ≤ byte ∧ byte < 0xF0 then some 3
  else if 0xF0 ≤ byte ∧ byte < 0xF8 then some 4
  else none

/-- Reads a byte written as a percent sign and two hexadecimal digits. -/
def readEscapedByte : List Spot → Option (Nat × List Spot)
  | percent :: high :: low :: rest =>
    match hexDigit? high.char, hexDigit? low.char with
    | some high, some low => if percent.char = '%' then some (high * 16 + low, rest) else none
    | _, _ => none
  | _ => none

/-- Reads the further bytes of an escaped character. The bytes are put together as they
are, so only an ASCII character comes out as itself. -/
def readFurtherBytes : Nat → Nat → List Spot → Option (Nat × List Spot)
  | 0, code, text => some (code, text)
  | count + 1, code, text =>
    match readEscapedByte text with
    | some (byte, rest) =>
      if 0x80 ≤ byte ∧ byte < 0xC0 then readFurtherBytes count (code * 256 + byte) rest else none
    | none => none

/-- Reads an escaped character of a tag. -/
def readEscapedCharacter (text : List Spot) : Option (Char × List Spot) := do
  let (byte, rest) ← readEscapedByte text
  let width ← escapedWidth? byte
  let (code, rest) ← readFurtherBytes (width - 1) byte rest
  let c ← character? code
  some (c, rest)

/-- Reads characters of a tag, of which some are escaped. The first argument is not below
the length of the text. -/
def readTagCharacters (allowed : Char → Bool) : Nat → List Spot → Option (List Char × List Spot)
  | 0, text => some ([], text)
  | fuel + 1, text =>
    match text with
    | [] => some ([], [])
    | spot :: rest =>
      if !allowed spot.char then some ([], text)
      else if spot.char = '%' then do
        let (c, rest) ← readEscapedCharacter text
        let (others, rest) ← readTagCharacters allowed fuel rest
        some (c :: others, rest)
      else do
        let (others, rest) ← readTagCharacters allowed fuel rest
        some (spot.char :: others, rest)

/-- Reads an exclamation mark, a word, and a second mark if there is one. -/
def readHandle (text : List Spot) : Option (List Char × List Spot) :=
  match text with
  | spot :: rest =>
    if spot.char = '!' then
      let word := (rest.takeWhile fun spot => isWordCharacter spot.char).map Spot.char
      match rest.dropWhile fun spot => isWordCharacter spot.char with
      | last :: rest =>
        if last.char = '!' then some ('!' :: word ++ ['!'], rest) else some ('!' :: word, last :: rest)
      | [] => some ('!' :: word, [])
    else none
  | [] => none

/-- Whether a handle ends with a second exclamation mark. -/
def isNamedHandle (handle : List Char) : Bool :=
  2 ≤ handle.length && handle.getLast? = some '!'

/-- Reads a tag that begins at the first spot of the text. -/
def readTag (inFlow : Bool) (text : List Spot) : Option (WrittenTag × List Spot) := do
  let fuel := text.length
  let (tag, rest) ←
    if charAt text 1 = '<' then do
      let (suffix, rest) ← readTagCharacters isUriCharacter fuel (text.drop 2)
      if headChar rest = '>' then some (WrittenTag.mk "" (String.ofList suffix), rest.drop 1) else none
    else do
      let (handle, rest) ← readHandle text
      let (suffix, rest) ← readTagCharacters isTagCharacter fuel rest
      if isNamedHandle handle then
        if suffix.isEmpty then none
        else some (WrittenTag.mk (String.ofList handle) (String.ofList suffix), rest)
      else
        let suffix := handle.drop 1 ++ suffix
        some (if suffix.isEmpty then WrittenTag.mk "" "!" else WrittenTag.mk "!" (String.ofList suffix), rest)
  let next := headChar rest
  if isGap next || (inFlow && isFlowMark next) then some (tag, rest) else none

/-- Reads the name of an anchor or an alias, whose mark has been read. -/
def readAnchor (text : List Spot) : Option (String × List Spot) :=
  let name := text.takeWhile fun spot => isAnchorCharacter spot.char
  if name.isEmpty then none
  else some (String.ofList (name.map Spot.char), text.dropWhile fun spot => isAnchorCharacter spot.char)

/-! ## Directives -/

/-- A directive. One that is not known is passed over. -/
inductive Directive where
  | version
  | tag (handle leading : String)
  | other
  deriving DecidableEq, Repr

/-- Leaves out blanks. -/
def skipBlanks (text : List Spot) : List Spot :=
  text.dropWhile fun spot => isBlank spot.char

/-- Reads a number of a version, which has at most nine digits. -/
def readVersionNumber (text : List Spot) : Option (List Spot) :=
  let digits := text.takeWhile fun spot => spot.char.isDigit
  if digits.isEmpty || 9 < digits.length then none
  else some (text.dropWhile fun spot => spot.char.isDigit)

/-- Reads the version behind the name of its directive. -/
def readVersion (text : List Spot) : Option (Directive × List Spot) := do
  let rest ← readVersionNumber (skipBlanks text)
  if headChar rest = '.' then do
    let rest ← readVersionNumber (rest.drop 1)
    some (.version, rest)
  else none

/-- Reads what a handle stands for. -/
def readTagStart (text : List Spot) : Option (List Char × List Spot) :=
  let c := headChar text
  if c = '!' then
    (readTagCharacters isUriCharacter text.length (text.drop 1)).map fun (others, rest) => ('!' :: others, rest)
  else if isTagCharacter c then readTagCharacters isUriCharacter text.length text
  else none

/-- Reads a handle and what it stands for. -/
def readTagDirective (text : List Spot) : Option (Directive × List Spot) := do
  let (handle, rest) ← readHandle (skipBlanks text)
  if handle ≠ ['!'] && !isNamedHandle handle then none
  else do
    let (leading, rest) ← readTagStart (skipBlanks rest)
    if isGap (headChar rest) then some (.tag (String.ofList handle) (String.ofList leading), rest) else none

/-- Reads a directive, whose mark has been read, up to the end of its line. -/
def readDirective (text : List Spot) : Option (Directive × List Spot) := do
  let name := (text.takeWhile fun spot => isWordCharacter spot.char).map Spot.char
  let rest := text.dropWhile fun spot => isWordCharacter spot.char
  if name.isEmpty || !isGap (headChar rest) then none
  else do
    let (directive, rest) ←
      if name = "YAML".toList then readVersion rest
      else if name = "TAG".toList then readTagDirective rest
      else some (Directive.other, skipComment rest)
    let after ← skipLine false false rest
    if !isEnd (headChar after.text) then none
    else if isBreak (headChar after.text) then some (directive, after.text.drop 1)
    else some (directive, after.text)

end DocumentGateway.Yaml12

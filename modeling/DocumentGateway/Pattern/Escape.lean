import DocumentGateway.Pattern.Flags
import DocumentGateway.Json.Reader
import DocumentGateway.Text.Property

/-!
# Escapes of patterns

A backslash takes the meaning from a character that has one and gives a meaning to some
that have none. An escape stands for a character, given by itself, by a letter or by its
code point; for a set of characters; or for an assertion about the place between two
characters.
-/
namespace DocumentGateway.Pattern

open Text

/-- What an escape stands for. -/
inductive Escape where
  | literal (c : Char)
  | set (set : CharSet)
  | assertion (assertion : Assertion)

/-- The character with a code point, if there is one. -/
def character? (code : Nat) : Option Char :=
  if code < 0xD800 ∨ (0xDFFF < code ∧ code < 0x110000) then some (Char.ofNat code) else none

/-- A fixed number of hexadecimal digits. -/
def readHexDigits (flags : Flags) : Nat → Nat → List Char → Option (Nat × List Char)
  | 0, code, text => some (code, text)
  | count + 1, code, text =>
    match flags.skip text with
    | c :: rest =>
      (Json.hexValue? c).bind fun digit => readHexDigits flags count (code * 16 + digit) rest
    | [] => none

/-- Hexadecimal digits up to a closing brace, of which there has to be one. The first
argument is not below the length of the text. -/
def readHexInBraces (flags : Flags) : Nat → Option Nat → List Char → Option (Nat × List Char)
  | 0, _, _ => none
  | fuel + 1, code, text =>
    match flags.skip text with
    | '\x7d' :: rest => code.map fun code => (code, rest)
    | c :: rest =>
      (Json.hexValue? c).bind fun digit =>
        readHexInBraces flags fuel (some (min (code.getD 0 * 16 + digit) 0x110000)) rest
    | [] => none

/-- A character given by its code point, after the letter of the escape, with as many
digits as the letter says or in braces. Where sets are drawn from ASCII, two digits
denote a byte, and a byte above ASCII is no character. -/
def readCodePoint (flags : Flags) (width : Nat) (text : List Char) : Option (Escape × List Char) := do
  match flags.skip text with
  | '\x7b' :: rest =>
    let (code, rest) ← readHexInBraces flags (rest.length + 1) none rest
    some (.literal (← character? code), rest)
  | text =>
    let (code, rest) ← readHexDigits flags width 0 text
    let c ← character? code
    if width = 2 && !flags.admits c then none else some (.literal c, rest)

/-- Whether a character may stand in the name of a word boundary. -/
def isBoundaryLetter (c : Char) : Bool :=
  c.isAlpha || c = '-'

/-- The letters of the name of a word boundary. The first argument is not below the
length of the text. -/
def readBoundaryName (flags : Flags) : Nat → List Char → List Char × List Char
  | 0, text => ([], text)
  | fuel + 1, text =>
    match text with
    | [] => ([], [])
    | c :: rest =>
      if isBoundaryLetter c then
        let (name, rest) := readBoundaryName flags fuel (flags.skip rest)
        (c :: name, rest)
      else ([], c :: rest)

/-- The assertion of a kind of word boundary. -/
def boundaryOfName? (alphabet : Alphabet) (name : List Char) : Option Assertion :=
  match String.ofList name with
  | "start" => some (.wordStart alphabet)
  | "end" => some (.wordEnd alphabet)
  | "start-half" => some (.wordStartHalf alphabet)
  | "end-half" => some (.wordEndHalf alphabet)
  | _ => none

/-- A word boundary, after its letter. A brace that a letter follows begins the name of
its kind; any other brace belongs to a repetition. -/
def readBoundary (flags : Flags) (text : List Char) : Option (Escape × List Char) :=
  match text with
  | '\x7b' :: inner =>
    match flags.skip inner with
    | [] => none
    | c :: rest =>
      if isBoundaryLetter c then
        match readBoundaryName flags (rest.length + 1) (c :: rest) with
        | (name, '\x7d' :: rest) =>
          (boundaryOfName? flags.alphabet name).map fun boundary => (.assertion boundary, rest)
        | _ => none
      else some (.assertion (.wordBoundary flags.alphabet), text)
  | text => some (.assertion (.wordBoundary flags.alphabet), text)

/-- The text up to a closing brace, of which there has to be one. The first argument is
not below the length of the text. -/
def readInBraces (flags : Flags) : Nat → List Char → Option (List Char × List Char)
  | 0, _ => none
  | fuel + 1, text =>
    match flags.skip text with
    | '\x7d' :: rest => some ([], rest)
    | c :: rest => (readInBraces flags fuel rest).map fun (name, rest) => (c :: name, rest)
    | [] => none

/-- The characters a property written in braces stands for, and whether it is written
with the sign for being different. -/
def propertyInBraces? (text : List Char) : Option (Bool × CharSet) :=
  match cutAt? ['!', '='] text with
  | some (kind, value) => (setOfValue? kind value).map fun set => (true, set)
  | none =>
    match cutAt? [':'] text <|> cutAt? ['='] text with
    | some (kind, value) => (setOfValue? kind value).map fun set => (false, set)
    | none => (setOfName? text).map fun set => (false, set)

/-- A property of characters, after the letter of the escape: a name of one letter, or a
name in braces. There are no properties where sets are drawn from ASCII. -/
def readProperty (flags : Flags) (negated : Bool) (text : List Char) : Option (Escape × List Char) := do
  let ((differs, set), rest) ← match flags.skip text with
    | '\x7b' :: rest => do
      let (name, rest) ← readInBraces flags (rest.length + 1) rest
      some (← propertyInBraces? name, rest)
    | '\\' :: _ => none
    | c :: rest => do some ((false, ← setOfName? [c]), rest)
    | [] => none
  match flags.alphabet with
  | .unicode => (flags.negate? (negated ≠ differs) (flags.widen set)).map fun set => (.set set, rest)
  | .ascii => none

/-- Whether a character may be escaped only to stand for itself. -/
def isEscapable (c : Char) : Bool :=
  c.toNat < 0x80 && !c.isAlphanum && c ≠ '<' && c ≠ '>'

/-- What a letter or angle bracket after a backslash stands for when nothing else has to
be read. -/
def simpleEscape? (flags : Flags) (c : Char) : Option Escape :=
  let set := fun (negated : Bool) (set : CharSet) => (flags.negate? negated set).map Escape.set
  match c with
  | 'd' => set false flags.digits
  | 'D' => set true flags.digits
  | 's' => set false flags.blanks
  | 'S' => set true flags.blanks
  | 'w' => set false flags.word
  | 'W' => set true flags.word
  | 'a' => some (.literal '\x07')
  | 'f' => some (.literal '\x0c')
  | 't' => some (.literal '\t')
  | 'n' => some (.literal '\n')
  | 'r' => some (.literal '\r')
  | 'v' => some (.literal '\x0b')
  | 'A' => some (.assertion .textStart)
  | 'z' => some (.assertion .textEnd)
  | 'B' => some (.assertion (.notWordBoundary flags.alphabet))
  | '<' => some (.assertion (.wordStart flags.alphabet))
  | '>' => some (.assertion (.wordEnd flags.alphabet))
  | c => if isEscapable c then some (.literal c) else none

/-- The escape after a backslash. -/
def readEscape (flags : Flags) : List Char → Option (Escape × List Char)
  | [] => none
  | 'x' :: rest => readCodePoint flags 2 rest
  | 'u' :: rest => readCodePoint flags 4 rest
  | 'U' :: rest => readCodePoint flags 8 rest
  | 'b' :: rest => readBoundary flags rest
  | 'p' :: rest => readProperty flags false rest
  | 'P' :: rest => readProperty flags true rest
  | c :: rest => (simpleEscape? flags c).map fun escape => (escape, rest)

end DocumentGateway.Pattern

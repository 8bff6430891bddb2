import DocumentGateway.Keyed
import DocumentGateway.Text.Alphabetic
import DocumentGateway.Text.Blank
import DocumentGateway.Text.Cut

/-!
# Environment files

An environment file sets variables, one on each line, as a name, an equals sign and a
value. The word `export` may stand in front. Values may hold quoted parts: between
single quotes every character stands for itself, and between double quotes a backslash
escapes and a dollar sign puts in the value of another variable, as it also does
outside quotes. A quoted part may go over several lines. Comments start with a hash at
the start of a line or after a blank.

The file is read from its start, and reading ends at the first line that is not of this
form; the variables before it are set all the same. A variable that has a value already
keeps it.
-/
namespace DocumentGateway.Config

/-- The values of variables. -/
abbrev Variables := List (String × String)

namespace EnvironmentFile

/-! ## Entries over several lines -/

/-- Where the end of a line stands in an entry. -/
inductive LineEnd where
  | outside
  | afterBlank
  | escape
  | single
  | singleEscape
  | double
  | doubleEscape
  deriving DecidableEq, Repr

/-- The place after a character, which does not start a comment. -/
def LineEnd.next (place : LineEnd) (c : Char) : LineEnd :=
  match place with
  | outside =>
    if Text.isBlank c && c ≠ '\n' && c ≠ '\r' then afterBlank
    else if c = '\\' then escape else if c = '"' then double else if c = '\'' then single
    else outside
  | afterBlank =>
    if c = '\\' then escape else if c = '"' then double else if c = '\'' then single
    else outside
  | escape => outside
  | single => if c = '\\' then singleEscape else if c = '\'' then outside else single
  | singleEscape => single
  | double => if c = '\\' then doubleEscape else if c = '"' then outside else double
  | doubleEscape => double

/-- The part of a line before its comment, if it has one, or the place at its end. -/
def LineEnd.scan (place : LineEnd) : List Char → LineEnd ⊕ List Char
  | [] => .inl place
  | c :: rest =>
    if place = afterBlank ∧ c = '#' then .inr []
    else match (place.next c).scan rest with
      | .inl last => .inl last
      | .inr before => .inr (c :: before)

/-- The lines of a text, each with its line end. -/
def lines : List Char → List (List Char)
  | [] => []
  | c :: rest =>
    if c = '\n' then [c] :: lines rest
    else match lines rest with
      | [] => [[c]]
      | line :: others => (c :: line) :: others

/-- A line without its line end. -/
def withoutLineEnd (line : List Char) : List Char :=
  match line.reverse with
  | '\n' :: '\r' :: rest => rest.reverse
  | '\n' :: rest => rest.reverse
  | _ => line

/-- The entries that some lines hold, after the part of an entry read so far. An entry
that does not end is `none`, and it is the last one. -/
def entriesFrom (before : List Char) (place : LineEnd) : List (List Char) → List (Option (List Char))
  | [] => if place = .outside then [] else [none]
  | line :: rest =>
    if (Text.trimLeft (before ++ line)).head? = some '#' then entriesFrom [] .outside rest
    else match place.scan line with
      | .inl .outside => some (withoutLineEnd (before ++ line)) :: entriesFrom [] .outside rest
      | .inl place => entriesFrom (before ++ line) place rest
      | .inr kept => some (before ++ kept) :: entriesFrom [] .outside rest

/-! ## Values -/

/-- The kind of quotes that a part of a value stands in. -/
inductive Quotes where
  | none
  | single
  | double
  deriving DecidableEq, Repr

/-- What the next character of a value belongs to: text, an escape, the name of a
variable with or without braces, or the blanks after the value. Names are kept in
reverse. -/
inductive ValuePart where
  | text
  | escape
  | name (reversed : List Char)
  | braced (reversed : List Char)
  | after
  deriving DecidableEq, Repr

/-- The characters of a variable's value. Variables are looked up as entries, a name, an
equals sign and a value in one text: the value is what follows the wanted name and an
equals sign. A wanted name may therefore reach into a value that holds an equals sign. A
variable that is not there, and the one without a name, has no characters. -/
def lookup (environment : Variables) (reversed : List Char) : List Char :=
  if reversed = [] then []
  else
    let wanted := reversed.reverse ++ ['=']
    let value? := environment.findSome? fun (name, value) =>
      wanted.isPrefixOf? (name ++ "=" ++ value).toList
    value?.getD []

/-- The character that a backslash and a character stand for. -/
def escaped? (c : Char) : Option Char :=
  if c = 'n' then some '\n'
  else if ['\\', '\'', '"', '$', ' '].contains c then some c
  else none

/-- Puts characters in front of a value that could be read. -/
def prepend (text : List Char) (value : Option (List Char)) : Option (List Char) :=
  value.map (text ++ ·)

/-- Reads the rest of a value. -/
def readValue (environment : Variables) : Quotes → ValuePart → List Char → Option (List Char)
  | quotes, part, [] =>
    match quotes, part with
    | _, .braced _ => none
    | .none, .name reversed => some (lookup environment reversed)
    | .none, _ => some []
    | _, _ => none
  | quotes, part, c :: rest =>
    match part with
    | .after =>
      if c = ' ' ∨ c = '\t' then readValue environment quotes .after rest
      else if c = '#' then some []
      else none
    | .escape => do
      let meant ← escaped? c
      prepend [meant] (readValue environment quotes .text rest)
    | .name reversed =>
      if Text.isAlphanumeric c then readValue environment quotes (.name (c :: reversed)) rest
      else if c = '\x7b' ∧ reversed = [] then readValue environment quotes (.braced []) rest
      else if c = '$' then
        prepend (lookup environment reversed) (readValue environment quotes (.name []) rest)
      else
        prepend (lookup environment reversed ++ [c]) (readValue environment quotes .text rest)
    | .braced reversed =>
      if c = '\x7d' then
        prepend (lookup environment reversed) (readValue environment quotes .text rest)
      else readValue environment quotes (.braced (c :: reversed)) rest
    | .text =>
      match quotes with
      | .single =>
        if c = '\'' then readValue environment .none .text rest
        else prepend [c] (readValue environment .single .text rest)
      | .double =>
        if c = '$' then readValue environment .double (.name []) rest
        else if c = '"' then readValue environment .none .text rest
        else if c = '\\' then readValue environment .double .escape rest
        else prepend [c] (readValue environment .double .text rest)
      | .none =>
        if c = '$' then readValue environment .none (.name []) rest
        else if c = '\'' then readValue environment .single .text rest
        else if c = '"' then readValue environment .double .text rest
        else if c = '\\' then readValue environment .none .escape rest
        else if c = ' ' ∨ c = '\t' then readValue environment .none .after rest
        else prepend [c] (readValue environment .none .text rest)

/-! ## Entries -/

/-- Whether a character may start the name of a variable that is set. -/
def startsName (c : Char) : Bool :=
  c.isAlpha || c = '_'

/-- Whether a character may stand in the name of a variable that is set. -/
def continuesName (c : Char) : Bool :=
  c.isAlphanum || c = '_' || c = '.'

/-- The name in front of an entry and the text after it and after the blanks behind it. -/
def readName (text : List Char) : Option (List Char × List Char) :=
  match text with
  | c :: _ =>
    if startsName c then
      some (text.takeWhile continuesName, Text.trimLeft (text.dropWhile continuesName))
    else none
  | [] => none

/-- The name that an entry sets and the text after its equals sign. The word `export` is
itself a name when an equals sign follows it. -/
def readTarget (text : List Char) : Option (List Char × List Char) := do
  let (name, rest) ← readName text
  match rest with
  | '=' :: rest => some (name, rest)
  | _ =>
    if name = "export".toList then do
      let (name, rest) ← readName rest
      match rest with
      | '=' :: rest => some (name, rest)
      | _ => none
    else none

/-- The variable that an entry sets. An entry without any text sets none. -/
def readEntry (environment : Variables) (entry : List Char) : Option (Option (String × String)) :=
  let text := Text.trim entry
  if text.isEmpty || text.head? = some '#' then some none
  else do
    let (name, rest) ← readTarget text
    let rest := Text.trimLeft rest
    let value ←
      if rest.head? = some '#' then some [] else readValue environment .none .text rest
    some (some (String.ofList name, String.ofList value))

/-- Sets a variable that has no value yet. -/
def setNew (environment : Variables) (name value : String) : Variables :=
  if Keyed.contains name environment then environment else environment ++ [(name, value)]

/-- Sets the variables of some entries, up to the first one that cannot be read. -/
def setEntries (environment : Variables) : List (Option (List Char)) → Variables
  | some entry :: rest =>
    match readEntry environment entry with
    | some (some (name, value)) => setEntries (setNew environment name value) rest
    | some none => setEntries environment rest
    | none => environment
  | _ => environment

end EnvironmentFile

/-- The values of variables after an environment file has been read. -/
def Variables.withFile (environment : Variables) (text : String) : Variables :=
  EnvironmentFile.setEntries environment
    (EnvironmentFile.entriesFrom [] .outside
      (EnvironmentFile.lines (Text.withoutByteOrderMark text.toList)))

end DocumentGateway.Config

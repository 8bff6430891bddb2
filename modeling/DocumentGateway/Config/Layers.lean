import DocumentGateway.Config.EnvironmentFile
import DocumentGateway.Config.Setting
import DocumentGateway.Decimal.Shortest
import DocumentGateway.Json.Reader
import DocumentGateway.Yaml12.Node

/-!
# Layers of settings

Settings may come from several places, and a later place overrides an earlier one entry
by entry: sections are merged, and every other value replaces what was there. The place
of an entry is a path of names and list positions. The names at the top of a file and
the names of variables are such paths in writing.

A value of a layer passes for more than it is, because variables hold nothing but text:
text passes for the number or the truth value it spells, and numbers and truth values
pass for one another and for text.
-/
namespace DocumentGateway.Config

/-! ## Paths -/

/-- A step of a path: into a section by name, or into a list by position. A negative
position counts from the end of the list. -/
inductive PathStep where
  | name (name : String)
  | position (position : Int)
  deriving DecidableEq, Repr

/-- Whether a character may stand in a name of a written path. -/
def isPathCharacter (c : Char) : Bool :=
  c.isAlphanum || c = '_' || c = '-'

/-- The name at the start of a text, and the rest. -/
def readPathName (text : List Char) : Option (String × List Char) :=
  let name := text.takeWhile isPathCharacter
  if name.isEmpty then none else some (String.ofList name, text.dropWhile isPathCharacter)

/-- The position in brackets at the start of a text, behind its opening bracket. Blanks
may stand around it, and it has 64 bits with sign. -/
def readPosition (text : List Char) : Option (Int × List Char) := do
  let (written, rest) ← Text.cutAt? [']'] text
  let digits := (trimBlanks (trimBlanks written).reverse).reverse
  let position ← match digits with
    | '-' :: digits => (Decimal.natural? digits).map fun n => -(n : Int)
    | digits => (Decimal.natural? digits).map fun n => (n : Int)
  if -(Nat.pow 2 63 : Int) ≤ position ∧ position < Nat.pow 2 63 then some (position, rest) else none
where
  trimBlanks (text : List Char) : List Char := text.dropWhile fun c => c = ' ' || c = '\t'

/-- The steps after the first one. The number bounds how many there are. -/
def readSteps : Nat → List Char → Option (List PathStep)
  | _, [] => some []
  | 0, _ => none
  | fuel + 1, '.' :: rest => do
    let (name, rest) ← readPathName rest
    let steps ← readSteps fuel rest
    some (.name name :: steps)
  | fuel + 1, '[' :: rest => do
    let (position, rest) ← readPosition rest
    let steps ← readSteps fuel rest
    some (.position position :: steps)
  | _, _ => none

/-- The steps of a written path, which starts with a name. -/
def readPath (text : String) : Option (List PathStep) := do
  let (name, rest) ← readPathName text.toList
  let steps ← readSteps rest.length rest
  some (.name name :: steps)

/-- The path that a text stands for: a text that is no written path is one name. -/
def pathOf (text : String) : List PathStep :=
  (readPath text).getD [.name text]

/-! ## Merging -/

mutual

/-- Puts a value over another one. -/
def overlay : Json → Json → Json
  | .object members, below => .object (overlayMembers members (below.members?.getD []))
  | value, _ => value

/-- Puts members over those of a section, one by one. -/
def overlayMembers : List (String × Json) → List (String × Json) → List (String × Json)
  | [], below => below
  | (name, value) :: rest, below =>
    overlayMembers rest
      (Keyed.insert name (overlay value ((Keyed.get? name below).getD .null)) below)

end

/-- Changes the item at a position of a list, which grows as far as needed. -/
def changeItem (position : Int) (change : Json → Json) (items : List Json) : List Json :=
  if 0 ≤ position then
    let index := position.toNat
    let padded := items ++ List.replicate (index + 1 - items.length) Json.null
    padded.modify index change
  else
    let back := position.natAbs
    if back ≤ items.length then items.modify (items.length - back) change
    else (List.replicate (back - items.length) Json.null ++ items).modify 0 change

/-- Puts a value at the end of a path. What stands in the way of the path gives way. -/
def putAt (value : Json) : List PathStep → Json → Json
  | [], below => overlay value below
  | .name name :: rest, below =>
    let members := below.members?.getD []
    let child := (Keyed.get? name members).getD .null
    .object (Keyed.insert name (putAt value rest child) members)
  | .position position :: rest, below =>
    .array (changeItem position (putAt value rest) (below.items?.getD []))

/-- Puts the members of a layer over what the layers before it hold. -/
def addLayer (below : Json) (members : List (String × Json)) : Json :=
  members.foldl (fun tree member => putAt member.2 (pathOf member.1) tree) below

/-! ## Files -/

/-- The name that a key of a YAML file stands for. Numbers and truth values count as their
text. -/
def nameOfKey? : Yaml12.Value → Option String
  | .text text => some text
  | .integer n => some (toString n)
  | .real text => some text
  | .truth flag => some (if flag then "true" else "false")
  | _ => none

mutual

/-- A value of a YAML file. The words for infinity and NaN are refused. Of two keys that
stand for one name the later one counts. -/
def ofYaml? : Yaml12.Value → Option Json
  | .nothing => some .null
  | .outOfKind => some .null
  | .truth flag => some (.bool flag)
  | .integer n => some (.number (.integer n))
  | .real text =>
    if Yaml12.isNumberWord text then none
    else (Decimal.parse? text.toList).map fun x => .number (.real x)
  | .text text => some (.string text)
  | .list items => (ofYamlItems? items).map .array
  | .section entries => (ofYamlEntries? [] entries).map .object

/-- The items of a list in a YAML file. -/
def ofYamlItems? : List Yaml12.Value → Option (List Json)
  | [] => some []
  | item :: rest => do
    let first ← ofYaml? item
    let others ← ofYamlItems? rest
    some (first :: others)

/-- The entries of a section in a YAML file, added to those before them. -/
def ofYamlEntries? (members : List (String × Json)) :
    List (Yaml12.Value × Yaml12.Value) → Option (List (String × Json))
  | [] => some members
  | (key, item) :: rest => do
    let name ← nameOfKey? key
    let value ← ofYaml? item
    ofYamlEntries? (Keyed.insert name value members) rest

end

/-- The formats of settings files. -/
inductive FileFormat where
  | json
  | yaml
  deriving DecidableEq, Repr

/-- The members at the top of a settings file. The file must hold a section; an empty
YAML file holds an empty one. -/
def FileFormat.read? (format : FileFormat) (text : String) : Option (List (String × Json)) :=
  let text := String.ofList (Text.withoutByteOrderMark text.toList)
  match format with
  | .json => (Json.ofText? text).bind Json.members?
  | .yaml =>
    match Yaml12.document? text with
    | some (some value) => (ofYaml? value).bind Json.members?
    | some none => some []
    | none => none

/-! ## Variables -/

/-- The text with every occurrence of a symbol replaced. The number bounds how many
there are. -/
def replaceAll (symbol replacement : List Char) : Nat → List Char → List Char
  | 0, text => text
  | fuel + 1, text =>
    match Text.cutAt? symbol text with
    | some (before, after) => before ++ replacement ++ replaceAll symbol replacement fuel after
    | none => text

/-- A character in lower case. Only characters whose lower case is ASCII are changed,
because no name and no word with another one has a meaning: the capital letters and the
Kelvin sign. -/
def lowerChar (c : Char) : Char :=
  if c = '\u212A' then 'k' else c.toLower

/-- The written path of a variable, if its name starts with a prefix. Names count in
lower case, and two underscores stand between the steps. -/
def variablePath? (leading : String) (name : String) : Option String :=
  let lower := name.toList.map lowerChar
  (leading.toList.isPrefixOf? lower).map fun rest =>
    String.ofList (replaceAll ['_', '_'] ['.'] rest.length rest)

/-- The members that variables whose names start with a prefix stand for. -/
def variableLayer (leading : String) (environment : Variables) : List (String × Json) :=
  environment.filterMap fun (name, value) =>
    (variablePath? leading name).map fun path => (path, .string value)

/-! ## What values pass for -/

/-- A text in lower case. -/
def lowerCase (text : String) : String :=
  String.ofList (text.toList.map lowerChar)

/-- The number that a text stands for as a truth value in words. -/
def truthInWords? (text : String) : Option Nat :=
  let lower := lowerCase text
  if ["true", "on", "yes"].contains lower then some 1
  else if ["false", "off", "no"].contains lower then some 0
  else none

/-- The truth value that a text stands for. -/
def truthOfText? (text : String) : Option Bool :=
  if text = "1" then some true
  else if text = "0" then some false
  else (truthInWords? text).map (· = 1)

/-- The integer that a text stands for. -/
def integerOfText? (text : String) : Option Int :=
  match truthInWords? text with
  | some n => some n
  | none => Decimal.integer? text.toList

/-- The natural number that a text stands for. -/
def naturalOfText? (text : String) : Option Nat :=
  match truthInWords? text with
  | some n => some n
  | none => Decimal.unsignedInteger? text.toList

/-- The text of a floating-point number without an exponent. -/
def realText (x : Float) : String :=
  if Decimal.isFinite x then String.ofList (Decimal.plainText x)
  else if 0 < x then "inf" else if x < 0 then "-inf" else "NaN"

/-- What a number passes for. A floating-point number is rounded to the nearest integer
of its range. -/
def writtenNumber : Number → Written
  | .integer n =>
    { text := some (toString n), integer := some n
      natural := if 0 ≤ n then some n.toNat else none, truth := some (n ≠ 0) }
  | .real x =>
    { text := some (realText x), integer := some x.round.toInt64.toInt
      natural := some x.round.toUInt64.toNat, truth := some (x != 0) }

mutual

/-- The settings of a tree of layers. A section with a single entry may stand for the
name of that entry. -/
def Setting.ofLayers : Json → Setting
  | .null => .value { saysNothing := true }
  | .bool flag =>
    .value { text := some (if flag then "true" else "false"), integer := some flag.toNat
             natural := some flag.toNat, truth := some flag }
  | .number n => .value (writtenNumber n)
  | .string text =>
    .value { ownText := some text, text := some text, integer := integerOfText? text
             natural := naturalOfText? text, truth := truthOfText? text }
  | .array items => .list .atLeast (Setting.ofLayerItems items)
  | .object members => .section (members.length = 1) (Setting.ofLayerMembers members)

/-- The settings of the items of a list. -/
def Setting.ofLayerItems : List Json → List Setting
  | [] => []
  | item :: rest => Setting.ofLayers item :: Setting.ofLayerItems rest

/-- The settings of the members of a section. -/
def Setting.ofLayerMembers : List (String × Json) → List (Setting × Setting)
  | [] => []
  | (name, item) :: rest => (.ofName name, Setting.ofLayers item) :: Setting.ofLayerMembers rest

end

end DocumentGateway.Config

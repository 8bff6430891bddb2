import DocumentGateway.Text.Alphabetic
import DocumentGateway.Text.Blank
import DocumentGateway.Text.Category
import DocumentGateway.Text.Script

/-!
# Properties of characters

A property is asked for by a name, or by the name of a kind of property and one of its
values. Names are compared without regard to case, to the blanks and strokes between
their words and to a leading `is`. A single name is looked up among the properties that
a character has or has not, then among the general categories, then among the scripts.
-/
namespace DocumentGateway.Text

/-- The lower-case letters among the characters that are not of category Ll. -/
def otherLowercaseRanges : List (Nat × Nat) :=
  [(0xAA, 0xAA), (0xBA, 0xBA), (0x2B0, 0x2B8), (0x2C0, 0x2C1), (0x2E0, 0x2E4), (0x345, 0x345),
   (0x37A, 0x37A), (0x10FC, 0x10FC), (0x1D2C, 0x1D6A), (0x1D78, 0x1D78), (0x1D9B, 0x1DBF),
   (0x2071, 0x2071), (0x207F, 0x207F), (0x2090, 0x209C), (0x2170, 0x217F), (0x24D0, 0x24E9),
   (0x2C7C, 0x2C7D), (0xA69C, 0xA69D), (0xA770, 0xA770), (0xA7F2, 0xA7F4), (0xA7F8, 0xA7F9),
   (0xAB5C, 0xAB5F), (0xAB69, 0xAB69), (0x10780, 0x10780), (0x10783, 0x10785), (0x10787, 0x107B0),
   (0x107B2, 0x107BA), (0x1E030, 0x1E06D)]

/-- The upper-case letters among the characters that are not of category Lu. -/
def otherUppercaseRanges : List (Nat × Nat) :=
  [(0x2160, 0x216F), (0x24B6, 0x24CF), (0x1F130, 0x1F149), (0x1F150, 0x1F169), (0x1F170, 0x1F189)]

/-- The lower-case characters. -/
def lowercase : CharSet :=
  ((CharSet.ofCategories ["Ll"]).union (CharSet.ofPairs otherLowercaseRanges)).difference
    (CharSet.ofPairs [(0x295, 0x295)])

/-- The upper-case characters. -/
def uppercase : CharSet :=
  (CharSet.ofCategories ["Lu"]).union (CharSet.ofPairs otherUppercaseRanges)

/-- The characters that may start an identifier. -/
def identifierStart : CharSet :=
  ((CharSet.ofCategories ["Ll", "Lm", "Lo", "Lt", "Lu", "Nl"]).union
    (CharSet.ofPairs [(0x1885, 0x1886), (0x2118, 0x2118), (0x212E, 0x212E), (0x309B, 0x309C)])).difference
    (CharSet.ofPairs [(0x2E2F, 0x2E2F)])

/-- The characters that may continue an identifier. -/
def identifierContinue : CharSet :=
  (identifierStart.union (CharSet.ofCategories ["Mc", "Mn", "Nd", "Pc"])).union
    (CharSet.ofPairs [(0xB7, 0xB7), (0x387, 0x387), (0x1369, 0x1371), (0x19DA, 0x19DA),
      (0x200C, 0x200D), (0x30FB, 0x30FB), (0xFF65, 0xFF65)])

/-- The set of a property that a character has or has not. -/
def propertySet? (name : String) : Option CharSet :=
  match name with
  | "alphabetic" | "alpha" => some alphabetic
  | "whitespace" | "wspace" | "space" => some (CharSet.ofPairs blankRanges)
  | "lowercase" | "lower" => some lowercase
  | "uppercase" | "upper" => some uppercase
  | "cased" => some ((lowercase.union uppercase).union (CharSet.ofCategories ["Lt"]))
  | "idstart" | "ids" => some identifierStart
  | "idcontinue" | "idc" => some identifierContinue
  | "joincontrol" | "joinc" => some (CharSet.ofPairs [(0x200C, 0x200D)])
  | "asciihexdigit" | "ahex" => some (CharSet.ofPairs [(0x30, 0x39), (0x41, 0x46), (0x61, 0x66)])
  | "hexdigit" | "hex" =>
    some (CharSet.ofPairs [(0x30, 0x39), (0x41, 0x46), (0x61, 0x66), (0xFF10, 0xFF19),
      (0xFF21, 0xFF26), (0xFF41, 0xFF46)])
  | _ => none

/-- Whether a character counts in the name of a property. -/
def isNameCharacter (c : Char) : Bool :=
  c.toNat < 0x80 && c ≠ ' ' && c ≠ '_' && c ≠ '-'

/-- The name of a property as it is compared. What is left of `isc` is that name itself
and not the letter `c`. -/
def comparedName (name : List Char) : String :=
  let (isLed, rest) := match name with
    | first :: second :: rest =>
      if first.toLower = 'i' ∧ second.toLower = 's' then (true, rest) else (false, name)
    | _ => (false, name)
  let letters := (rest.filter isNameCharacter).map Char.toLower
  if isLed ∧ letters = ['c'] then "isc" else String.ofList letters

/-- The characters a single name stands for. Three names of kinds of property are also
names of general categories, which come first there. -/
def setOfName? (name : List Char) : Option CharSet :=
  let name := comparedName name
  propertySet? name <|> categorySet? name <|> scriptSet? name

/-- The characters for which a kind of property has a value. -/
def setOfValue? (kind value : List Char) : Option CharSet :=
  match comparedName kind with
  | "generalcategory" | "gc" => categorySet? (comparedName value)
  | "script" | "sc" => scriptSet? (comparedName value)
  | _ => none

end DocumentGateway.Text

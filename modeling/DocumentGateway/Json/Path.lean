import DocumentGateway.Json.Basic
import DocumentGateway.Text.Cut
import DocumentGateway.Decimal.Reading

/-!
# Paths into documents

A path is a row of segments written with dots between them. A segment names a member
of an object or, written as a number, an item of an array. Looking up a path gives
nothing as soon as one segment is missing. Writing and removing follow members only
and never enter arrays.
-/
namespace DocumentGateway.Json

/-- The place in an array that a segment denotes: digits with an optional plus sign. -/
def index? (segment : String) : Option Nat :=
  let digits := match segment.toList with
    | '+' :: rest => rest
    | rest => rest
  if digits.isEmpty || !digits.all Decimal.isDigit then none else some (Decimal.natural digits)

/-- One step of a path. -/
def step (segment : String) : Json → Option Json
  | .object members => Keyed.get? segment members
  | .array items => (index? segment).bind fun place => items[place]?
  | _ => none

/-- The value reached from a value by the remaining segments. -/
def follow : List String → Json → Option Json
  | [], value => some value
  | segment :: rest, value => (step segment value).bind (follow rest)

/-- The segments of a written path. A path has at least one segment. -/
def segments (path : String) : List String :=
  Text.split '.' path

/-- The value at a path of a document. -/
def resolve (document : Document) (path : String) : Option Json :=
  follow (segments path) (.object document)

/-- Writes a value at a path, making the objects on the way. A value on the way that is
no object stops the writing. -/
def setPath : List String → Json → Document → Document
  | [], _, document => document
  | [name], value, document => Keyed.insert name value document
  | name :: rest, value, document =>
    match Keyed.get? name document with
    | none => Keyed.insert name (.object (setPath rest value [])) document
    | some (.object members) => Keyed.insert name (.object (setPath rest value members)) document
    | some _ => document

/-- Removes the member at a path, if objects lead to it. -/
def removePath : List String → Document → Document
  | [], document => document
  | [name], document => Keyed.swapRemove name document
  | name :: rest, document =>
    match Keyed.get? name document with
    | some (.object members) => Keyed.insert name (.object (removePath rest members)) document
    | _ => document

end DocumentGateway.Json

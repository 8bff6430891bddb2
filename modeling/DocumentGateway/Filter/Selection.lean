import DocumentGateway.Filter.Reader

/-!
# Order and pages of found documents

Documents are sorted by the values at chosen paths, the first path deciding and later
ones breaking its ties. Sorting is stable: documents that compare equal keep their
order. A page skips a number of documents and then takes at most a number of them.
-/
namespace DocumentGateway

/-- The direction of a sort. -/
inductive Direction where
  | ascending
  | descending
  deriving DecidableEq, Repr

/-- A path to sort by, with its direction. -/
structure SortKey where
  field : String
  direction : Direction
  deriving DecidableEq, Repr

/-- Which of the matching documents are wanted, and in which order. -/
structure Selection where
  skip : Nat := 0
  limit : Option Nat := none
  sort : Option SortKey := none
  deriving DecidableEq, Repr

namespace Direction

/-- The short name of a direction. -/
def label : Direction → String
  | .ascending => "asc"
  | .descending => "desc"

/-- The long name of a direction. -/
def name : Direction → String
  | .ascending => "ascending"
  | .descending => "descending"

/-- The direction with the given name, short or long. -/
def ofName? (name : String) : Option Direction :=
  match name with
  | "ascending" => some .ascending
  | "asc" => some .ascending
  | "descending" => some .descending
  | "desc" => some .descending
  | _ => none

/-- The direction meant by a word in any case of letters, or by 1 and -1. -/
def ofWord (word : String) : Except FilterError Direction :=
  let lower := String.ofList (word.toList.map Char.toLower)
  match lower with
  | "1" => .ok .ascending
  | "-1" => .ok .descending
  | lower =>
    match ofName? lower with
    | some direction => .ok direction
    | none => .error (.badDirection lower)

/-- The direction meant by the integers 1 and -1. -/
def ofJson? : Json → Option Direction
  | .number (.integer n) =>
    if n = 1 then some .ascending else if n = -1 then some .descending else none
  | _ => none

/-- An ordering as seen in a direction. -/
def orient (direction : Direction) (ordering : Ordering) : Ordering :=
  match direction with
  | .ascending => ordering
  | .descending => ordering.swap

end Direction

/-- Compares two documents by one sort key. -/
def SortKey.compare (key : SortKey) (left right : Document) : Ordering :=
  key.direction.orient
    (Json.compareOptional (Json.resolve left key.field) (Json.resolve right key.field))

/-- Compares two documents by several sort keys, the first one first. -/
def compareBy : List SortKey → Document → Document → Ordering
  | [], _, _ => .eq
  | key :: rest, left, right => (key.compare left right).then (compareBy rest left right)

/-- Sorts documents, keeping the order of those that compare equal. -/
def sortDocuments (keys : List SortKey) (documents : List Document) : List Document :=
  documents.mergeSort fun left right => compareBy keys left right != .gt

namespace Selection

/-- The selection of a page given by its start and its size. A negative start counts
as zero, and a size that is not positive sets no limit. -/
def paged (start size : Int) : Selection :=
  { skip := start.toNat, limit := if 0 < size then some size.toNat else none }

/-- The part of a list that a selection asks for. -/
def page {α : Type} (selection : Selection) (items : List α) : List α :=
  match selection.limit with
  | some limit => (items.drop selection.skip).take limit
  | none => items.drop selection.skip

/-- The documents a selection asks for among all that match. -/
def select (selection : Selection) (documents : List Document) : List Document :=
  selection.page (sortDocuments selection.sort.toList documents)

end Selection

end DocumentGateway

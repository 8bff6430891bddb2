import DocumentGateway.SortedMap
import DocumentGateway.Store.Name

/-!
# A table with one row of records

All values are kept in one sorted map. A record's key is its namespace and its own key
with a NUL between them, so the records of a namespace stand together, between the
namespace followed by NUL and the namespace followed by U+0001.
-/
namespace DocumentGateway

/-- Values by the keys of their records. -/
structure FlatTable (α : Type) where
  records : SortedMap α

namespace FlatTable

variable {α : Type}

/-- The table without records. -/
def empty : FlatTable α :=
  ⟨.empty⟩

/-- The key of a record. -/
def recordKey (space key : String) : String :=
  space ++ "\x00" ++ key

/-- The least key that a record of the namespace can have. -/
def lowerBound (space : String) : String :=
  space ++ "\x00"

/-- The least key above all records of the namespace. -/
def upperBound (space : String) : String :=
  space ++ "\x01"

/-- Whether the key of a record lies between the bounds of a namespace. -/
def isWithin (space recordKey : String) : Bool :=
  lowerBound space ≤ recordKey && recordKey < upperBound space

/-- The namespace in the key of a record, which is all that stands before the first
NUL. -/
def spaceOf? (recordKey : String) : Option String :=
  (Text.cutAt? ['\x00'] recordKey.toList).map fun (space, _) => String.ofList space

/-- The value under a key. -/
def get? (table : FlatTable α) (space key : String) : Option α :=
  table.records.get? (recordKey space key)

/-- Stores entries one after another, each under a key that is new at that time. If one
is taken, nothing is stored. -/
def insertNew (table : FlatTable α) (space : String) :
    List (String × α) → Except StoreError (FlatTable α)
  | [] => .ok table
  | (key, value) :: rest =>
    if table.records.contains (recordKey space key) then .error (takenId space key)
    else insertNew ⟨table.records.insert (recordKey space key) value⟩ space rest

/-- Overwrites the value under a key that is there. -/
def replace? (table : FlatTable α) (space key : String) (value : α) : Option (FlatTable α) :=
  if table.records.contains (recordKey space key) then
    some ⟨table.records.insert (recordKey space key) value⟩
  else none

/-- Deletes a key and says whether it was there. -/
def delete (table : FlatTable α) (space key : String) : Bool × FlatTable α :=
  (table.records.contains (recordKey space key), ⟨table.records.erase (recordKey space key)⟩)

/-- The records of a namespace. -/
def within (table : FlatTable α) (space : String) : SortedMap α :=
  table.records.filterKeys (isWithin space)

/-- The values of a namespace in the order of their keys. -/
def values (table : FlatTable α) (space : String) : List α :=
  (table.within space).values

/-- Leaves out every text that is equal to the one before it. -/
def withoutRepeats : List String → List String
  | [] => []
  | text :: rest =>
    match withoutRepeats rest with
    | [] => [text]
    | next :: others => if text = next then next :: others else text :: next :: others

/-- The namespaces in order. -/
def spaces (table : FlatTable α) : List String :=
  withoutRepeats (table.records.keys.filterMap spaceOf?)

/-- Whether the namespace has records. -/
def contains (table : FlatTable α) (space : String) : Bool :=
  !(table.within space).isEmpty

/-- Removes the records of a namespace and says whether there were any. -/
def drop (table : FlatTable α) (space : String) : Bool × FlatTable α :=
  (table.contains space, ⟨table.records.filterKeys fun key => !isWithin space key⟩)

end FlatTable

end DocumentGateway

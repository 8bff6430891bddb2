import DocumentGateway.SortedMap
import DocumentGateway.Store.Name

/-!
# A table of tables

Values are kept under a namespace and a key, as one sorted map per namespace. Deleting
the last key of a namespace removes the namespace with it. Putting no entries into a
namespace brings it into being all the same.
-/
namespace DocumentGateway

/-- One map of values for each namespace. -/
structure NestedTable (α : Type) where
  namespaces : SortedMap (SortedMap α)

namespace NestedTable

variable {α : Type}

/-- The table without namespaces. -/
def empty : NestedTable α :=
  ⟨.empty⟩

/-- The values of a namespace by their keys. -/
def records (table : NestedTable α) (space : String) : SortedMap α :=
  (table.namespaces.get? space).getD .empty

/-- The value under a key. -/
def get? (table : NestedTable α) (space key : String) : Option α :=
  (table.records space).get? key

/-- Stores entries whose keys are new. If one of them is taken, nothing is stored. Of
several entries with one key the last is kept. -/
def insertNew (table : NestedTable α) (space : String) (entries : List (String × α)) :
    Except StoreError (NestedTable α) :=
  let records := table.records space
  match entries.find? fun entry => records.contains entry.1 with
  | some entry => .error (takenId space entry.1)
  | none =>
    let filled := entries.foldl (fun records entry => records.insert entry.1 entry.2) records
    .ok ⟨table.namespaces.insert space filled⟩

/-- Overwrites the value under a key that is there. -/
def replace? (table : NestedTable α) (space key : String) (value : α) : Option (NestedTable α) :=
  let records := table.records space
  if records.contains key then some ⟨table.namespaces.insert space (records.insert key value)⟩
  else none

/-- Deletes a key and says whether it was there. A namespace left without keys goes
too. -/
def delete (table : NestedTable α) (space key : String) : Bool × NestedTable α :=
  match table.namespaces.get? space with
  | none => (false, table)
  | some records =>
    let kept := records.erase key
    let namespaces :=
      if kept.isEmpty then table.namespaces.erase space else table.namespaces.insert space kept
    (records.contains key, ⟨namespaces⟩)

/-- The values of a namespace in the order of their keys. -/
def values (table : NestedTable α) (space : String) : List α :=
  (table.records space).values

/-- The namespaces in order. -/
def spaces (table : NestedTable α) : List String :=
  table.namespaces.keys

/-- Whether there is such a namespace. -/
def contains (table : NestedTable α) (space : String) : Bool :=
  table.namespaces.contains space

/-- Removes a namespace with its values and says whether there was one. -/
def drop (table : NestedTable α) (space : String) : Bool × NestedTable α :=
  (table.contains space, ⟨table.namespaces.erase space⟩)

end NestedTable

end DocumentGateway

import DocumentGateway.Store.FlatTable
import DocumentGateway.Store.NestedTable

/-!
# Storage backends

A backend keeps values under a namespace and a key. The one in memory is lost when it is
closed, the one in a file is there again when the file is opened. Apart from that the
two are meant to answer alike: what is put in under new keys goes in altogether or not
at all, and the values of a namespace are visited in the order of their keys.
-/
namespace DocumentGateway

/-- Where values are kept. -/
inductive Backend (α : Type) where
  | memory (table : NestedTable α)
  | file (table : FlatTable α)

namespace Backend

variable {α : Type}

/-- The value under a key. -/
def get? (backend : Backend α) (space key : String) : Option α :=
  match backend with
  | memory table => table.get? space key
  | file table => table.get? space key

/-- Stores entries whose keys are new, all of them or none. -/
def insertNew (backend : Backend α) (space : String) (entries : List (String × α)) :
    Except StoreError (Backend α) :=
  match backend with
  | memory table => (table.insertNew space entries).map memory
  | file table => (table.insertNew space entries).map file

/-- Overwrites the value under a key that is there. -/
def replace? (backend : Backend α) (space key : String) (value : α) : Option (Backend α) :=
  match backend with
  | memory table => (table.replace? space key value).map memory
  | file table => (table.replace? space key value).map file

/-- Deletes a key and says whether it was there. -/
def delete (backend : Backend α) (space key : String) : Bool × Backend α :=
  match backend with
  | memory table => (table.delete space key).map id memory
  | file table => (table.delete space key).map id file

/-- The values of a namespace in the order of their keys. -/
def values (backend : Backend α) (space : String) : List α :=
  match backend with
  | memory table => table.values space
  | file table => table.values space

/-- Visits the values of a namespace in order, until a visit is refused. -/
def scan {ε σ : Type} (backend : Backend α) (space : String) (visit : σ → α → Except ε σ)
    (start : σ) : Except ε σ :=
  (backend.values space).foldlM visit start

/-- The namespaces in order. -/
def spaces (backend : Backend α) : List String :=
  match backend with
  | memory table => table.spaces
  | file table => table.spaces

/-- Whether there is such a namespace. -/
def contains (backend : Backend α) (space : String) : Bool :=
  match backend with
  | memory table => table.contains space
  | file table => table.contains space

/-- Removes a namespace with its values and says whether there was one. -/
def drop (backend : Backend α) (space : String) : Bool × Backend α :=
  match backend with
  | memory table => (table.drop space).map id memory
  | file table => (table.drop space).map id file

/-- The backend after it has been closed and opened again. -/
def reopened (backend : Backend α) : Backend α :=
  match backend with
  | memory _ => memory .empty
  | file table => file table

end Backend

end DocumentGateway

/-!
# Keyed lists

A keyed list is a list of pairs read as a finite map that remembers the order in
which its keys came. Storing under a key already present keeps the key's place;
a new key goes to the end. Removal is not order preserving: the last entry moves
into the freed place.
-/
namespace DocumentGateway.Keyed

variable {κ α : Type} [DecidableEq κ]

/-- The value stored under the key, if there is one. -/
def get? (key : κ) : List (κ × α) → Option α
  | [] => none
  | entry :: rest => if entry.1 = key then some entry.2 else get? key rest

/-- Whether the key is present. -/
def contains (key : κ) (entries : List (κ × α)) : Bool :=
  (get? key entries).isSome

/-- Stores the value, in place when the key is present and at the end otherwise. -/
def insert (key : κ) (value : α) : List (κ × α) → List (κ × α)
  | [] => [(key, value)]
  | entry :: rest =>
    if entry.1 = key then (key, value) :: rest else entry :: insert key value rest

/-- Stores all pairs from left to right. -/
def insertAll (pairs : List (κ × α)) (entries : List (κ × α)) : List (κ × α) :=
  pairs.foldl (fun kept pair => insert pair.1 pair.2 kept) entries

/-- The keyed list of the given pairs: of several pairs with one key, the first
gives the place and the last the value. -/
def ofList (pairs : List (κ × α)) : List (κ × α) :=
  insertAll pairs []

/-- Removes the key. Unless the removed entry was the last one, the last entry takes
its place. -/
def swapRemove (key : κ) (entries : List (κ × α)) : List (κ × α) :=
  match entries.getLast? with
  | none => []
  | some last =>
    if last.1 = key then entries.dropLast
    else if contains key entries then
      entries.dropLast.map fun entry => if entry.1 = key then last else entry
    else entries

/-- The keys in order. -/
def keys (entries : List (κ × α)) : List κ :=
  entries.map Prod.fst

end DocumentGateway.Keyed

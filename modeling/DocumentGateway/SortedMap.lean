/-!
# Maps sorted by key

A map from strings, kept as the list of its entries in strictly increasing order of
their keys. Strings are ordered character by character, which is also the order of
their UTF-8 bytes. The order is part of the type, so every map has one form only.
-/
namespace DocumentGateway

/-- Entries in strictly increasing order of their keys. -/
structure SortedMap (α : Type) where
  entries : List (String × α)
  increasing : entries.Pairwise fun left right => left.1 < right.1

namespace SortedMap

variable {α : Type}

/-- The map without entries. -/
def empty : SortedMap α :=
  ⟨[], .nil⟩

/-- The value found under a key in a list of entries. -/
def lookup (key : String) : List (String × α) → Option α
  | [] => none
  | entry :: rest => if entry.1 = key then some entry.2 else lookup key rest

/-- Puts an entry at its place, replacing the one with the same key. -/
def place (key : String) (value : α) : List (String × α) → List (String × α)
  | [] => [(key, value)]
  | entry :: rest =>
    if key < entry.1 then (key, value) :: entry :: rest
    else if entry.1 < key then entry :: place key value rest
    else (key, value) :: rest

/-- Every key after placing is the placed key or was there before. -/
theorem mem_place {key : String} {value : α} {entries : List (String × α)} {entry : String × α}
    (member : entry ∈ place key value entries) : entry = (key, value) ∨ entry ∈ entries := by
  induction entries with
  | nil => simpa [place] using member
  | cons first rest tailCase =>
    unfold place at member
    split at member
    · simpa [or_assoc] using member
    · split at member
      · rcases List.mem_cons.mp member with here | later
        · exact .inr (List.mem_cons.mpr (.inl here))
        · exact (tailCase later).imp_right fun inRest => List.mem_cons.mpr (.inr inRest)
      · rcases List.mem_cons.mp member with here | later
        · exact .inl here
        · exact .inr (List.mem_cons.mpr (.inr later))

/-- Placing an entry keeps the keys increasing. -/
theorem increasing_place (key : String) (value : α) {entries : List (String × α)}
    (increasing : entries.Pairwise fun left right => left.1 < right.1) :
    (place key value entries).Pairwise fun left right => left.1 < right.1 := by
  induction entries with
  | nil => simp [place]
  | cons first rest tailCase =>
    obtain ⟨below, increasingRest⟩ := List.pairwise_cons.mp increasing
    unfold place
    split
    · rename_i smaller
      refine List.pairwise_cons.mpr ⟨fun entry member => ?_, increasing⟩
      rcases List.mem_cons.mp member with here | later
      · exact here ▸ smaller
      · exact String.lt_trans smaller (below entry later)
    · split
      · rename_i larger
        refine List.pairwise_cons.mpr ⟨fun entry member => ?_, tailCase increasingRest⟩
        rcases mem_place member with placed | inRest
        · exact placed ▸ larger
        · exact below entry inRest
      · rename_i notSmaller notLarger
        have equal : first.1 = key := String.le_antisymm notSmaller notLarger
        exact List.pairwise_cons.mpr ⟨fun entry member => equal ▸ below entry member, increasingRest⟩

/-- The value under a key. -/
def get? (map : SortedMap α) (key : String) : Option α :=
  lookup key map.entries

/-- Whether there is a value under the key. -/
def contains (map : SortedMap α) (key : String) : Bool :=
  (map.get? key).isSome

/-- Stores a value under a key. -/
def insert (map : SortedMap α) (key : String) (value : α) : SortedMap α :=
  ⟨place key value map.entries, increasing_place key value map.increasing⟩

/-- Keeps the entries whose key passes the test. -/
def filterKeys (map : SortedMap α) (keep : String → Bool) : SortedMap α :=
  ⟨map.entries.filter fun entry => keep entry.1, map.increasing.sublist List.filter_sublist⟩

/-- Removes the entry of a key. -/
def erase (map : SortedMap α) (key : String) : SortedMap α :=
  map.filterKeys (· ≠ key)

/-- Whether there are no entries. -/
def isEmpty (map : SortedMap α) : Bool :=
  map.entries.isEmpty

/-- The keys in increasing order. -/
def keys (map : SortedMap α) : List String :=
  map.entries.map Prod.fst

/-- The values in increasing order of their keys. -/
def values (map : SortedMap α) : List α :=
  map.entries.map Prod.snd

end SortedMap

end DocumentGateway

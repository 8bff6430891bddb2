import DocumentGateway.Store.Error
import DocumentGateway.Text.Blank
import DocumentGateway.Text.Cut

/-!
# Immutable collections

A set of collections that refuse every write, kept sorted by database and then by
collection. It is written either as a list of entries `database/collection` or as one
text with semicolons between the entries.
-/
namespace DocumentGateway

/-- A database and a collection in it. -/
structure CollectionName where
  database : String
  collection : String
  deriving DecidableEq, Repr

/-- The order of collections: by database, then by collection. -/
def CollectionName.before (left right : CollectionName) : Bool :=
  left.database < right.database ||
    (left.database = right.database && left.collection < right.collection)

/-- The collections in increasing order, each once. -/
structure ImmutableSet where
  entries : List CollectionName
  deriving DecidableEq, Repr

namespace ImmutableSet

/-- The set without entries. -/
def empty : ImmutableSet :=
  ⟨[]⟩

/-- Puts a collection at its place in a sorted list, unless it is there already. -/
def place (name : CollectionName) : List CollectionName → List CollectionName
  | [] => [name]
  | entry :: rest =>
    if name = entry then entry :: rest
    else if name.before entry then name :: entry :: rest
    else entry :: place name rest

/-- Adds a collection. -/
def insert (set : ImmutableSet) (name : CollectionName) : ImmutableSet :=
  ⟨place name set.entries⟩

/-- Whether a collection belongs to the set. -/
def contains (set : ImmutableSet) (database collection : String) : Bool :=
  set.entries.contains ⟨database, collection⟩

/-- Refuses a write to a collection of the set. -/
def check (set : ImmutableSet) (database collection : String) : Except StoreError Unit :=
  if set.contains database collection then .error (.immutableCollection database collection)
  else .ok ()

/-- The collection named by an entry: a database and a collection around the only
slash, neither of them empty. -/
def readEntry (entry : List Char) : Except StoreError CollectionName :=
  match Text.cutAt? ['/'] entry with
  | some (c :: database, d :: collection) =>
    if (d :: collection).contains '/' then refuse
    else .ok ⟨String.ofList (c :: database), String.ofList (d :: collection)⟩
  | _ => refuse
where
  refuse : Except StoreError CollectionName :=
    .error (.invalidName
      ("immutable collection entry '" ++ String.ofList entry ++ "' must be 'database/collection'"))

/-- Reads entries one by one into a set. -/
def ofEntries : List (List Char) → ImmutableSet → Except StoreError ImmutableSet
  | [], set => .ok set
  | entry :: rest, set => (readEntry entry).bind fun name => ofEntries rest (set.insert name)

/-- The entries of the compact form. Blank ones are passed over. -/
def compactEntries (text : String) : List (List Char) :=
  ((Text.pieces ';' text.toList).map Text.trim).filter (!·.isEmpty)

/-- Reads the compact form. -/
def ofText (text : String) : Except StoreError ImmutableSet :=
  ofEntries (compactEntries text) empty

/-- Reads a list of entries. None of them may be blank. -/
def ofList (entries : List String) : Except StoreError ImmutableSet :=
  ofEntries (entries.map fun entry => Text.trim entry.toList) empty

/-- The entries as they are written. -/
def toList (set : ImmutableSet) : List String :=
  set.entries.map fun name => name.database ++ "/" ++ name.collection

/-- The compact form. -/
def toText (set : ImmutableSet) : String :=
  Text.join ";" set.toList

end ImmutableSet

end DocumentGateway

import DocumentGateway.Store.Error
import DocumentGateway.Text.Cut

/-!
# Names of databases and collections, identifiers of documents

A name is not empty, has no slash and no NUL, and does not begin with `$`. A collection
is addressed by the names of its database and of itself with a slash between them, so
the first slash of an address tells the two apart. Identifiers are freer: they are only
not empty and have no NUL.
-/
namespace DocumentGateway

/-- Whether a text has one of the forbidden features of names. -/
def hasForbiddenPart (name : String) : Bool :=
  name.toList.contains '/' || name.toList.contains '\x00' || name.toList.head? = some '$'

/-- Checks the name of a database or a collection. -/
def validateName (kind name : String) : Except StoreError Unit :=
  if name.isEmpty then .error (.invalidName (kind ++ " name is empty"))
  else if hasForbiddenPart name then
    .error (.invalidName
      (kind ++ " name '" ++ name ++ "' must not contain '/' or NUL or start with '$'"))
  else .ok ()

/-- Checks the identifier of a document. -/
def validateId (id : String) : Except StoreError Unit :=
  if id.isEmpty || id.toList.contains '\x00' then
    .error (.invalidDocument ("'" ++ id ++ "' is not a valid document id"))
  else .ok ()

/-- The address of a collection. -/
def address (database collection : String) : String :=
  database ++ "/" ++ collection

/-- Checks both names of a collection and answers its address. -/
def checkedAddress (database collection : String) : Except StoreError String := do
  validateName "database" database
  validateName "collection" collection
  .ok (address database collection)

/-- The refusal of an identifier that is taken at an address. It names the collection,
which is all that follows the first slash of the address. -/
def takenId (space id : String) : StoreError :=
  match Text.cutAt? ['/'] space.toList with
  | some (_, collection) => .duplicateId id (String.ofList collection)
  | none => .duplicateId id space

end DocumentGateway

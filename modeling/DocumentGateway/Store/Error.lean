/-!
# Errors of the document store

Every refusal of the store is the caller's fault, except a failing backend and a stored
value that cannot be read. Errors that come from a reader carry the wording of that
reader.
-/
namespace DocumentGateway

/-- Why the store refuses an operation. -/
inductive StoreError where
  | backend (reason : String)
  | codec (reason : String)
  | invalidDocument (reason : String)
  | invalidFilter (reason : String)
  | invalidPipeline (reason : String)
  | invalidName (reason : String)
  | duplicateId (id collection : String)
  | immutableCollection (database collection : String)
  deriving DecidableEq, Repr

namespace StoreError

/-- The wording of an error. -/
def message : StoreError → String
  | backend reason => "Backend error: " ++ reason
  | codec reason => "Codec error: " ++ reason
  | invalidDocument reason => "Invalid document: " ++ reason
  | invalidFilter reason => "Invalid filter: " ++ reason
  | invalidPipeline reason => "Invalid pipeline: " ++ reason
  | invalidName reason => "Invalid name: " ++ reason
  | duplicateId id collection =>
    "Object '" ++ id ++ "' already exists in collection '" ++ collection ++ "'"
  | immutableCollection database collection =>
    "Collection " ++ collection ++ " in database " ++ database ++ " is immutable"

/-- Whether the caller is at fault. -/
def isClientError : StoreError → Bool
  | backend _ => false
  | codec _ => false
  | _ => true

end StoreError

end DocumentGateway

import DocumentGateway.Json.Basic
import DocumentGateway.Store.Error

/-!
# Errors of the gateway

Every refusal has a status, a code and a wording. What went wrong inside the store or
the gateway is not told: such errors all show the same wording to the outside.
-/
namespace DocumentGateway

/-- Why the gateway refuses a request. -/
inductive GatewayError where
  | authentication (reason : String)
  | forbidden (scope : String)
  | rateLimitExceeded
  | timeout
  | badRequest (reason : String)
  | objectNotFound (id collection : String)
  | collectionNotFound (collection : String)
  | store (cause : StoreError)
  | internal (reason : String)
  | notFound
  deriving DecidableEq, Repr

namespace GatewayError

/-- The wording of an error. -/
def message : GatewayError → String
  | authentication reason => "Authentication failed: " ++ reason
  | forbidden scope => "Missing required scope '" ++ scope ++ "'"
  | rateLimitExceeded => "Rate limit exceeded"
  | timeout => "Request timeout"
  | badRequest reason => "Bad request: " ++ reason
  | objectNotFound id collection =>
    "Object '" ++ id ++ "' does not exist in collection '" ++ collection ++ "'"
  | collectionNotFound collection => "Collection '" ++ collection ++ "' does not exist"
  | store cause => cause.message
  | internal reason => "Internal server error: " ++ reason
  | notFound => "Not found"

/-- The status of the answer to a refused request. -/
def status : GatewayError → Nat
  | authentication _ => 401
  | forbidden _ => 403
  | rateLimitExceeded => 429
  | timeout => 408
  | badRequest _ => 400
  | objectNotFound _ _ => 404
  | collectionNotFound _ => 404
  | store cause => if cause.isClientError then 400 else 500
  | internal _ => 500
  | notFound => 404

/-- The code of a store error. The errors that are not the caller's fault share one. -/
def storeCode : StoreError → String
  | .duplicateId _ _ => "DUPLICATE_ID"
  | .immutableCollection _ _ => "IMMUTABLE_COLLECTION"
  | .invalidFilter _ => "INVALID_FILTER"
  | .invalidPipeline _ => "INVALID_PIPELINE"
  | .invalidDocument _ => "INVALID_DOCUMENT"
  | .invalidName _ => "INVALID_NAME"
  | .backend _ => "STORE_ERROR"
  | .codec _ => "STORE_ERROR"

/-- The code of an error. -/
def code : GatewayError → String
  | authentication _ => "AUTH_FAILED"
  | forbidden _ => "FORBIDDEN"
  | rateLimitExceeded => "RATE_LIMIT_EXCEEDED"
  | timeout => "REQUEST_TIMEOUT"
  | badRequest _ => "BAD_REQUEST"
  | objectNotFound _ _ => "OBJECT_NOT_FOUND"
  | collectionNotFound _ => "COLLECTION_NOT_FOUND"
  | store cause => storeCode cause
  | internal _ => "INTERNAL_ERROR"
  | notFound => "NOT_FOUND"

/-- The wording that is shown to the outside. -/
def shownMessage (error : GatewayError) : String :=
  if error.status = 500 then "Internal server error" else error.message

/-- The body of the answer to a refused request. -/
def toJson (error : GatewayError) : Json :=
  .object [("error", .object
    [("code", .string error.code), ("message", .string error.shownMessage)])]

end GatewayError

end DocumentGateway

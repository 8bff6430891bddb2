import DocumentGateway.Csv.Documents
import DocumentGateway.Gateway.Query
import DocumentGateway.Gateway.Route
import DocumentGateway.Http.Multipart
import DocumentGateway.Json.Reader

/-!
# Taking a request apart

Before a request is authorized, everything that its action needs is taken out of it:
first the parameters of the query, then the body. A query or a body that does not have
the right form is refused with plain words. What the body says is looked at only later.
-/
namespace DocumentGateway

open Http

/-- Why a request is not answered with what it asks for: an error of the gateway, or a
fault of form, which is answered with a status and plain words. -/
inductive Refusal where
  | error (cause : GatewayError)
  | form (status : Nat) (words : String)
  deriving DecidableEq, Repr

/-- An action with everything it needs. The body of an upload is absent when it is too
long, which is an error only once the action is allowed. -/
inductive Task where
  | getAll
  | dropCollection
  | get (id : String)
  | delete (id : String)
  | insert (id : Option String) (format : ResponseFormat) (body : Bytes)
  | replace (id : String) (format : ResponseFormat) (body : Bytes)
  | find (paging : Paging) (filter : String)
  | search (parameters : SearchParameters)
  | explain (search : Option String)
  | count (filter : String)
  | distinct (field filter : String)
  | aggregate (pipeline : String)
  | insertMany (body : Bytes)
  | insertCsv (boundary : String) (body : Option Bytes)
  deriving DecidableEq, Repr

namespace Http.Request

/-- The length that the headers announce, counted in 64 bits. -/
def announcedLength? (request : Request) : Option Nat :=
  (((request.header? "content-length").bind plainText?).bind fun text =>
    Decimal.unsignedInteger? text.toList).filter (· < Nat.pow 2 64)

/-- Whether the headers announce a body over the limit. -/
def announcesTooMuch (request : Request) (limit : Nat) : Bool :=
  match request.announcedLength? with
  | some length => limit < length
  | none => false

/-- The body, if it keeps within the limit and within the announced length. -/
def limitedBody? (request : Request) (limit : Nat) : Option Bytes :=
  if request.body.length ≤ min limit (request.announcedLength?.getD limit) then
    some request.body
  else none

/-- The body within its limits. -/
def bodyBytes (request : Request) (limit : Nat) : Except Refusal Bytes :=
  match request.limitedBody? limit with
  | some body => .ok body
  | none => .error (.form 413 "length limit exceeded")

/-- The body as text. -/
def bodyText (request : Request) (limit : Nat) : Except Refusal String := do
  let bytes ← request.bodyBytes limit
  match Utf8.decode? bytes with
  | some text => .ok text
  | none => .error (.form 400 "Request body didn't contain valid UTF-8")

/-- Parameters read from the query. -/
def parameters {α : Type} (request : Request) (reader : Config.Setting → Option α) :
    Except Refusal α :=
  match reader (queryParameters (queryPairs request.query)) with
  | some found => .ok found
  | none => .error (.form 400 "Failed to deserialize query string")

end Http.Request

/-- The task of an action, with what it takes from a request. -/
def Action.task (action : Action) (request : Request) (limit : Nat) : Except Refusal Task :=
  match action with
  | .getAll => .ok .getAll
  | .dropCollection => .ok .dropCollection
  | .get id => .ok (.get id)
  | .delete id => .ok (.delete id)
  | .insertNew => do
    let format ← request.parameters ResponseFormat.ofSetting?
    let body ← request.bodyBytes limit
    .ok (.insert none format body)
  | .insert id => do
    let format ← request.parameters ResponseFormat.ofSetting?
    let body ← request.bodyBytes limit
    .ok (.insert (some id) format body)
  | .replace id => do
    let format ← request.parameters ResponseFormat.ofSetting?
    let body ← request.bodyBytes limit
    .ok (.replace id format body)
  | .find => do
    let paging ← request.parameters Paging.ofSetting?
    let filter ← request.bodyText limit
    .ok (.find paging filter)
  | .search => (request.parameters SearchParameters.ofSetting?).map .search
  | .explain =>
    (request.parameters SearchParameters.ofSetting?).map fun parameters => .explain parameters.search
  | .count => (request.bodyText limit).map .count
  | .distinct field => (request.bodyText limit).map (.distinct field)
  | .aggregate => (request.bodyText limit).map .aggregate
  | .insertMany => (request.bodyBytes limit).map .insertMany
  | .insertCsv =>
    match Multipart.boundary? request with
    | some boundary => .ok (.insertCsv boundary (request.limitedBody? limit))
    | none => .error (.form 400 "Invalid boundary for multipart/form-data request")

/-! ## Bodies -/

/-- An error of comma-separated values as one of the gateway. -/
def GatewayError.ofCsv (error : Csv.Error) : GatewayError :=
  .badRequest error.message

/-- The JSON value of a body. -/
def bodyJson (body : Bytes) : Except GatewayError Json :=
  match (Utf8.decode? body).bind Json.ofText? with
  | some value => .ok value
  | none => .error (.badRequest "JSON parse error")

/-- The items of a body that is a JSON array. -/
def bodyItems (body : Bytes) : Except GatewayError (List Json) :=
  match bodyJson body with
  | .ok (.array items) => .ok items
  | .ok _ => .error (.badRequest "multi-insert body must be a JSON array")
  | .error error => .error error

/-- The name of the part of an upload that holds comma-separated values. -/
def csvPart : String := "csv"

/-- The comma-separated values of an upload. -/
def uploadedCsv (boundary : String) (body : Option Bytes) : Except GatewayError Bytes :=
  match body.bind (Multipart.content? boundary csvPart) with
  | none => .error (.badRequest "Multipart error")
  | some none => .error (.badRequest ("multipart field '" ++ csvPart ++ "' is required"))
  | some (some content) => .ok content

/-- The documents of an upload, its cells typed as wholes. There has to be at least one. -/
def uploadedDocuments (boundary : String) (body : Option Bytes) :
    Except GatewayError (List Json) := do
  let content ← uploadedCsv boundary body
  match Csv.documents Search.Matching.whole.recognizer content with
  | .error error => .error (.ofCsv error)
  | .ok [] => .error (.badRequest "Csv file has no data")
  | .ok documents => .ok (documents.map .object)

end DocumentGateway

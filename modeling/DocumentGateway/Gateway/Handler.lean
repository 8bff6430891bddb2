import DocumentGateway.Gateway.Basic
import DocumentGateway.Gateway.Task

/-!
# Answering tasks

A task is done by the service and answered by what the service returns. An inserted
document is answered with the place where it is found. That place is put together from
names as they are, and if one of them cannot stand in a header the answer is a fault,
although the document is stored.
-/
namespace DocumentGateway

open Http

/-- The answer to a task and the service after it. -/
abbrev Reply := Except Refusal Response × Service

/-- Goes on with a value unless it was refused. -/
def Service.whenRead {α : Type} (service : Service) (read : Except GatewayError α)
    (next : α → Reply) : Reply :=
  match read with
  | .ok value => next value
  | .error error => (.error (.error error), service)

/-- Goes on with the result of an operation unless it failed. -/
def Service.Outcome.next {α : Type} (outcome : Service.Outcome α)
    (next : α → Service → Reply) : Reply :=
  match outcome with
  | (.ok value, service) => next value service
  | (.error error, service) => (.error (.error (.store error)), service)

/-- The answer that names written documents. -/
def writtenIds (counted : String) (ids : List String) : Json :=
  .object [(counted, Json.ofNat ids.length), ("ids", .array (ids.map .string))]

/-- A written document in a format. -/
def ResponseFormat.show (format : ResponseFormat) (counted id : String) (document : Document) :
    Json :=
  match format with
  | .entireObject => .object document
  | .onlyId => writtenIds counted [id]

/-- The identifier of a stored document. -/
def storedId (document : Document) : Except GatewayError String :=
  match Keyed.get? "_id" document with
  | some (.string id) => .ok id
  | _ => .error (.internal "stored document has no string _id")

/-- The place where a document is found. -/
def documentLocation (database collection id : String) : String :=
  apiBase ++ "/" ++ database ++ "/" ++ collection ++ "/" ++ id

/-- The answer to an insertion. -/
def created (database collection id : String) (body : Json) : Except Refusal Response :=
  let location := documentLocation database collection id
  if isHeaderText location then
    .ok { status := 201, location := some location, content := .json body }
  else .error (.form 500 "failed to parse header value")

/-- The answer to an inserted document. -/
def inserted (format : ResponseFormat) (database collection : String) (document : Document) :
    Except Refusal Response := do
  let id ← (storedId document).mapError .error
  created database collection id (format.show "inserted" id document)

/-- The answer to a replaced document. -/
def replaced (format : ResponseFormat) (document : Document) : Except Refusal Response :=
  match format with
  | .entireObject => .ok (.ofJson 200 (.object document))
  | .onlyId => do
    let id ← (storedId document).mapError .error
    .ok (.ofJson 200 (writtenIds "updated" [id]))

/-- A list of documents as it is answered. -/
def documentList (documents : List Document) : Json :=
  .array (documents.map .object)

namespace Service

/-- The answer with a value. -/
def reply (service : Service) (value : Json) : Reply :=
  (.ok (.ofJson 200 value), service)

/-- The refusal of a task. -/
def refuse (service : Service) (error : GatewayError) : Reply :=
  (.error (.error error), service)

/-- All documents of a collection, if it holds any. -/
def replyAll (service : Service) (database collection : String) : Reply :=
  (service.collectionExists database collection).next fun present service =>
    if present then
      (service.getAll database collection).next fun documents service =>
        service.reply (documentList documents)
    else service.refuse (.collectionNotFound collection)

/-- Removes a collection, if it holds documents. -/
def replyDrop (service : Service) (database collection : String) : Reply :=
  (service.collectionExists database collection).next fun present service =>
    if present then
      (service.dropCollection database collection).next fun dropped service =>
        if dropped then (.ok { status := 200 }, service)
        else service.refuse (.collectionNotFound collection)
    else service.refuse (.collectionNotFound collection)

/-- Inserts a document with the identifier given, if one is. -/
def replyInsert (service : Service) (database collection : String) (id : Option String)
    (format : ResponseFormat) (body : Bytes) : Reply :=
  service.whenRead (bodyJson body) fun value =>
    (service.insert database collection id value).next fun document service =>
      (inserted format database collection document, service)

/-- Replaces a document. -/
def replyReplace (service : Service) (database collection id : String) (format : ResponseFormat)
    (body : Bytes) : Reply :=
  service.whenRead (bodyJson body) fun value =>
    (service.replace database collection id value).next fun found service =>
      match found with
      | some document => (replaced format document, service)
      | none => service.refuse (.objectNotFound id collection)

/-- Inserts several documents. -/
def replyInsertMany (service : Service) (database collection : String)
    (bodies : Except GatewayError (List Json)) : Reply :=
  service.whenRead bodies fun bodies =>
    (service.insertMany database collection bodies).next fun ids service =>
      service.reply (writtenIds "inserted" ids)

/-- The documents on a page of those that a search describes. -/
def replySearch (service : Service) (database collection : String)
    (parameters : SearchParameters) : Reply :=
  service.whenRead parameters.paging.selection fun selection =>
    (service.search database collection parameters.search selection).next fun documents service =>
      service.reply (documentList documents)

/-- What a search string compiles to. -/
def replyExplain (service : Service) (search : Option String) : Reply :=
  let report := service.explain search
  service.reply (.object [("filter", service.shownFilter report),
    ("skipped", .array (report.skipped.map Search.Skipped.toJson))])

/-- Does a task on a collection. -/
def perform (service : Service) (database collection : String) (task : Task) : Reply :=
  match task with
  | .getAll => service.replyAll database collection
  | .dropCollection => service.replyDrop database collection
  | .get id =>
    (service.get database collection id).next fun found service =>
      match found with
      | some document => service.reply (.object document)
      | none => service.refuse (.objectNotFound id collection)
  | .delete id =>
    (service.delete database collection id).next fun deleted service =>
      if deleted then (.ok { status := 200 }, service)
      else service.refuse (.objectNotFound id collection)
  | .insert id format body => service.replyInsert database collection id format body
  | .replace id format body => service.replyReplace database collection id format body
  | .find paging filter =>
    service.whenRead paging.selection fun selection =>
      (service.findText database collection filter selection).next fun documents service =>
        service.reply (documentList documents)
  | .search parameters => service.replySearch database collection parameters
  | .explain search => service.replyExplain search
  | .count filter =>
    (service.countText database collection filter).next fun count service =>
      service.reply (Json.ofNat count)
  | .distinct field filter =>
    (service.distinctText database collection field filter).next fun values service =>
      service.reply (.array values)
  | .aggregate pipeline =>
    (service.aggregateText database collection pipeline).next fun documents service =>
      service.reply (documentList documents)
  | .insertMany body => service.replyInsertMany database collection (bodyItems body)
  | .insertCsv boundary body =>
    service.replyInsertMany database collection (uploadedDocuments boundary body)

end Service

end DocumentGateway

import DocumentGateway.Service.Settings
import DocumentGateway.Store.DocumentStore

/-!
# The object service

The service owns a document store and a compiler of search strings. Every operation that
reaches the store is recorded with its name and with whether it succeeded. A search is
a find whose filter is compiled from a search string; the store reads that filter under
the mark of its own operators, whatever mark the settings choose for display.

The health of the store is probed by storing, reading and deleting one document, under
an identifier that comes with the number of the probe.
-/
namespace DocumentGateway

/-- The operations that are recorded. -/
inductive Operation where
  | get | getAll | insert | insertMany | replace | delete
  | find | count | distinct | aggregate | search | searchCount
  | collectionExists | dropCollection | listCollections | healthProbe
  deriving DecidableEq, Repr

/-- The name of an operation in the records. -/
def Operation.name : Operation → String
  | get => "get"
  | getAll => "get_all"
  | insert => "insert"
  | insertMany => "insert_many"
  | replace => "replace"
  | delete => "delete"
  | find => "find"
  | count => "count"
  | distinct => "distinct"
  | aggregate => "aggregate"
  | search => "search"
  | searchCount => "search_count"
  | collectionExists => "collection_exists"
  | dropCollection => "drop_collection"
  | listCollections => "list_collections"
  | healthProbe => "health_probe"

/-- A recorded operation. -/
structure Recorded where
  operation : Operation
  success : Bool
  deriving DecidableEq, Repr

/-- A service with the number of probes made and the operations recorded, latest first. -/
structure Service where
  store : DocumentStore
  compiler : Search.Settings
  health : HealthSettings
  probes : Nat
  records : List Recorded

/-- Why a service cannot be built. -/
inductive ServiceError where
  | config (cause : ConfigError)
  | compiler (cause : Search.SettingsError)
  | store (cause : StoreError)

/-- The wording of a refusal. -/
def ServiceError.message : ServiceError → String
  | .config cause => "invalid configuration: " ++ cause.message
  | .compiler cause => "compiler setup failed: " ++ cause.message
  | .store cause => "store setup failed: " ++ cause.message

/-- Opens the backend at a location. The tables of files are found by their paths; a
file that cannot be opened has none. -/
def Location.open (location : Location) (file? : String → Option (FlatTable Stored)) :
    Except StoreError (Backend Stored) :=
  match location with
  | .memory => .ok (.memory .empty)
  | .file path =>
    match file? path with
    | some table => .ok (.file table)
    | none => .error (.backend ("cannot open '" ++ path ++ "'"))

/-- Opens a store. -/
def StoreSettings.open (settings : StoreSettings) (file? : String → Option (FlatTable Stored))
    (ids : IdSupply) : Except StoreError DocumentStore := do
  let backend ← settings.location.open file?
  settings.compression.validate
  .ok { backend, compression := settings.compression, immutable := settings.immutable, ids }

/-- Opens a service. -/
def ServiceSettings.open (settings : ServiceSettings)
    (file? : String → Option (FlatTable Stored)) (ids : IdSupply) : Except ServiceError Service := do
  settings.validate.mapError .config
  let store ← (settings.store.open file? ids).mapError .store
  settings.compiler.validate.mapError .compiler
  .ok { store, compiler := settings.compiler, health := settings.health, probes := 0, records := [] }

namespace Service

/-- The answer of an operation and the service after it. -/
abbrev Outcome (α : Type) := Except StoreError α × Service

/-- Records an operation with its result. -/
def record {α : Type} (service : Service) (operation : Operation) (result : Except StoreError α) :
    Outcome α :=
  (result, { service with records := ⟨operation, result.isOk⟩ :: service.records })

/-- Records an operation that changes the store. -/
def recordWrite {α : Type} (service : Service) (operation : Operation)
    (outcome : DocumentGateway.Outcome α) : Outcome α :=
  { service with store := outcome.2 }.record operation outcome.1

/-- The document with an identifier. -/
def get (service : Service) (database collection id : String) : Outcome (Option Document) :=
  service.record .get (service.store.get database collection id)

/-- All documents of a collection. -/
def getAll (service : Service) (database collection : String) : Outcome (List Document) :=
  service.record .getAll (service.store.getAll database collection)

/-- Inserts a document. -/
def insert (service : Service) (database collection : String) (given : Option String)
    (body : Json) : Outcome Document :=
  service.recordWrite .insert (service.store.insert database collection given body)

/-- Inserts several documents, all or none. -/
def insertMany (service : Service) (database collection : String) (bodies : List Json) :
    Outcome (List String) :=
  service.recordWrite .insertMany (service.store.insertMany database collection bodies)

/-- Replaces a document that is there. -/
def replace (service : Service) (database collection id : String) (body : Json) :
    Outcome (Option Document) :=
  service.recordWrite .replace (service.store.replace database collection id body)

/-- Deletes a document. -/
def delete (service : Service) (database collection id : String) : Outcome Bool :=
  service.recordWrite .delete (service.store.delete database collection id)

/-- The selected documents that match a filter, which may be one that could not be
read. -/
def find (service : Service) (database collection : String) (filter : Except StoreError Filter)
    (selection : Selection) : Outcome (List Document) :=
  service.record .find
    (filter.bind fun filter => service.store.find database collection filter selection)

/-- The selected documents that match the filter in a text. -/
def findText (service : Service) (database collection filter : String) (selection : Selection) :
    Outcome (List Document) :=
  service.find database collection (readStoreFilterText filter) selection

/-- The number of documents that match a filter. -/
def count (service : Service) (database collection : String) (filter : Except StoreError Filter) :
    Outcome Nat :=
  service.record .count (filter.bind fun filter => service.store.count database collection filter)

/-- The number of documents that match the filter in a text. -/
def countText (service : Service) (database collection filter : String) : Outcome Nat :=
  service.count database collection (readStoreFilterText filter)

/-- The distinct values of a field. -/
def distinct (service : Service) (database collection field : String)
    (filter : Except StoreError Filter) : Outcome (List Json) :=
  service.record .distinct
    (filter.bind fun filter => service.store.distinct database collection field filter)

/-- The distinct values of a field among the documents that match the filter in a
text. -/
def distinctText (service : Service) (database collection field filter : String) :
    Outcome (List Json) :=
  service.distinct database collection field (readStoreFilterText filter)

/-- What a pipeline makes of a collection. -/
def aggregate (service : Service) (database collection : String)
    (pipeline : Except StoreError Pipeline) : Outcome (List Document) :=
  service.record .aggregate
    (pipeline.bind fun pipeline => service.store.aggregate database collection pipeline)

/-- What the pipeline in a text makes of a collection. -/
def aggregateText (service : Service) (database collection pipeline : String) :
    Outcome (List Document) :=
  service.aggregate database collection (readStorePipelineText pipeline)

/-- The filter of an expression, as the store reads it. -/
def storeFilter (expression : Search.Expression) : Except StoreError Filter :=
  readStoreFilter (.object (expression.toDocument Search.storeMark))

/-- The filter of a search string. -/
def searchFilter (service : Service) (search : Option String) : Except StoreError Filter :=
  storeFilter (Search.compileOptional service.compiler.matching search)

/-- The selected documents that a search string describes. -/
def search (service : Service) (database collection : String) (search : Option String)
    (selection : Selection) : Outcome (List Document) :=
  service.record .search
    ((service.searchFilter search).bind fun filter =>
      service.store.find database collection filter selection)

/-- The number of documents that a search string describes. -/
def searchCount (service : Service) (database collection : String) (search : Option String) :
    Outcome Nat :=
  service.record .searchCount
    ((service.searchFilter search).bind fun filter =>
      service.store.count database collection filter)

/-- What a search string compiles to, and which of its terms are skipped. -/
def explain (service : Service) (search : Option String) : Search.Report :=
  Search.report service.compiler.matching (search.getD "").toList

/-- The filter document of a report, under the mark chosen for display. -/
def shownFilter (service : Service) (report : Search.Report) : Json :=
  .object (report.expression.toDocument service.compiler.operatorMark)

/-- Whether a collection holds documents. -/
def collectionExists (service : Service) (database collection : String) : Outcome Bool :=
  service.record .collectionExists (service.store.collectionExists database collection)

/-- Removes a collection. -/
def dropCollection (service : Service) (database collection : String) : Outcome Bool :=
  service.recordWrite .dropCollection (service.store.dropCollection database collection)

/-- The collections of a database. -/
def listCollections (service : Service) (database : String) : Outcome (List String) :=
  service.record .listCollections (service.store.listCollections database)

/-- Whether a collection is immutable. -/
def isImmutable (service : Service) (database collection : String) : Bool :=
  service.store.immutable.contains database collection

/-- Stores a document, reads it and deletes it again, even when it could not be read. -/
def roundTrip (store : DocumentStore) (database collection id : String) :
    DocumentGateway.Outcome Unit :=
  match store.insert database collection (some id) (.object [("probe", .bool true)]) with
  | (.error error, store) => (.error error, store)
  | (.ok _, store) =>
    let read := store.get database collection id
    let (deleted, store) := store.delete database collection id
    match read with
    | .error error => (.error error, store)
    | .ok none =>
      (.error (.backend ("probe document '" ++ id ++ "' was not readable after insert")), store)
    | .ok (some _) => (deleted.map fun _ => (), store)

/-- What a probe says about the store. -/
inductive HealthStatus where
  | healthy
  | degraded
  | unhealthy
  deriving DecidableEq, Repr

/-- The name of a status. -/
def HealthStatus.name : HealthStatus → String
  | healthy => "healthy"
  | degraded => "degraded"
  | unhealthy => "unhealthy"

/-- The report of a probe, with the time it took in milliseconds. -/
structure HealthReport where
  status : HealthStatus
  latency : Nat
  detail : Option String
  deriving DecidableEq, Repr

/-- A report as it is shown. -/
def HealthReport.toJson (report : HealthReport) : Json :=
  .object ([("status", .string report.status.name), ("latency_ms", Json.ofNat report.latency)] ++
    (report.detail.map fun detail => ("detail", Json.string detail)).toList)

/-- The nanoseconds in a millisecond. -/
def nanosPerMilli : Nat := 1000000

/-- Judges a probe by its result and the nanoseconds it took. -/
def judge (settings : HealthSettings) (result : Except StoreError Unit) (elapsed : Nat) :
    HealthReport :=
  let latency := elapsed / nanosPerMilli
  let slow := some ("probe took " ++ toString latency ++ "ms")
  match result with
  | .error error => ⟨.unhealthy, latency, some error.message⟩
  | .ok _ =>
    if settings.timeout * nanosPerMilli < elapsed then ⟨.unhealthy, latency, slow⟩
    else if settings.degradedAfter * nanosPerMilli < elapsed then ⟨.degraded, latency, slow⟩
    else ⟨.healthy, latency, none⟩

/-- How many numbers there are for probes. They are counted in 64 bits, and the first of them
comes after the last. -/
def probeNumbers : Nat := Nat.pow 2 64

/-- The identifier that the next probe stores its document under. -/
def probeId (service : Service) : String :=
  "probe-" ++ toString (service.probes % probeNumbers)

/-- Probes the store. The number of the probe is used up whatever comes of it. -/
def probeHealth (service : Service) (elapsed : Nat) : HealthReport × Service :=
  let outcome :=
    roundTrip service.store service.health.database service.health.collection service.probeId
  let (result, after) :=
    { service with probes := service.probes + 1 }.recordWrite .healthProbe outcome
  (judge service.health result elapsed, after)

end Service

end DocumentGateway

import DocumentGateway.Gateway.Handler

/-!
# Answering requests

A request to a public page is answered to everyone. Every other known path asks for a
key: requests without a known key are refused, then those of keys that have used up
their window, then those whose method the path does not take. What remains is taken
apart, authorized and performed, in this order. Asking what a path allows is answered
without looking at it, and asking for the head of a page is answered like the page but
without its content.

A body whose announced length is over the limit is refused before all this.
-/
namespace DocumentGateway

open Http

/-- What the surroundings contribute to one answer: the time in nanoseconds since the
start, the same as a date, the time a probe of the store takes, and an identifier for a
request that brings none. -/
structure Occasion where
  now : Nat := 0
  timestamp : String := ""
  probeTime : Nat := 0
  freshId : String := ""

namespace Refusal

/-- The answer to a refused request. -/
def response : Refusal → Response
  | .error cause => .ofJson cause.status cause.toJson
  | .form status words => .ofWords status words

end Refusal

namespace Gateway

/-! ## Public pages -/

/-- The version of the program. -/
def version : String := "0.1.0"

/-- The paths that are listed for everyone. A name in braces stands for any segment. -/
def listedPaths : List String :=
  ["/api/1.0/\x7bdb\x7d/\x7bcollection\x7d",
    "/api/1.0/\x7bdb\x7d/\x7bcollection\x7d/\x7bid\x7d",
    "/api/1.0/\x7bdb\x7d/\x7bcollection\x7d/find",
    "/api/1.0/\x7bdb\x7d/\x7bcollection\x7d/search",
    "/api/1.0/\x7bdb\x7d/\x7bcollection\x7d/search/explain",
    "/api/1.0/\x7bdb\x7d/\x7bcollection\x7d/count",
    "/api/1.0/\x7bdb\x7d/\x7bcollection\x7d/distinct/\x7bfield\x7d",
    "/api/1.0/\x7bdb\x7d/\x7bcollection\x7d/aggregate",
    "/api/1.0/multi/\x7bdb\x7d/\x7bcollection\x7d",
    "/api/1.0/bulk/\x7bdb\x7d/\x7bcollection\x7d",
    "/health/live",
    "/health/ready",
    "/metrics"]

/-- The page that describes the program. -/
def info : Json :=
  .object [("name", .string "objgate"), ("version", .string version),
    ("api_version", .string "1.0"), ("endpoints", .array (listedPaths.map .string))]

/-- What every page on health starts with. -/
def healthHead (status : String) (occasion : Occasion) : List (String × Json) :=
  [("status", .string status), ("service", .string "objgate"),
    ("timestamp", .string occasion.timestamp),
    ("uptime_seconds", Json.ofNat (occasion.now / 1000000000))]

/-- The page that says that requests are answered at all. -/
def liveness (occasion : Occasion) : Json :=
  .object (healthHead "healthy" occasion)

/-- The page that says whether the store works, with its status. -/
def readiness (report : Service.HealthReport) (occasion : Occasion) : Response :=
  .ofJson (if report.status = .unhealthy then 503 else 200)
    (.object (healthHead report.status.name occasion ++
      [("components", .object [("store", report.toJson)])]))

/-- The answer to a refused request. -/
def refused (error : GatewayError) : Response :=
  (Refusal.error error).response

/-- The answer to a method that a path does not take. -/
def wrongMethod : Response :=
  { status := 405 }

/-- Shows a public page. No metrics are recorded, so their page is not there. -/
def showPage (gateway : Gateway) (occasion : Occasion) : PublicPage → Response × Gateway
  | .info => (.ofJson 200 info, gateway)
  | .liveness => (.ofJson 200 (liveness occasion), gateway)
  | .readiness =>
    let (report, service) := gateway.service.probeHealth occasion.probeTime
    (readiness report occasion, { gateway with service })
  | .metrics => (refused .notFound, gateway)

/-! ## Data requests -/

/-- The text without one leading mark of a bearer. -/
def withoutBearer (text : String) : String :=
  match "Bearer ".toList.isPrefixOf? text.toList with
  | some rest => String.ofList rest
  | none => text

/-- The key that a request presents, in the header for keys or else in the one for
authorization. -/
def presentedKey? (request : Request) : Option String :=
  let value := match request.header? "x-api-key" with
    | some value => some value
    | none => request.header? "authorization"
  (value.bind Request.plainText?).map withoutBearer

/-- The refusal of a request without a key. -/
def keyRequired : GatewayError :=
  .authentication ("API key required. Provide it in 'X-API-Key' or " ++
    "'Authorization: Bearer <key>' header")

/-- The refusal of a request with an unknown key. -/
def invalidKey : GatewayError :=
  .authentication "Invalid API key"

/-- The key of a request and the principal it belongs to. -/
def identify (settings : GatewaySettings) (request : Request) :
    Except GatewayError (String × Principal) :=
  match presentedKey? request with
  | none => .error keyRequired
  | some key =>
    match principalFor? settings key with
    | some principal => .ok (key, principal)
    | none => .error invalidKey

/-- Takes a request apart and authorizes what it asks for. -/
def prepare (settings : GatewaySettings) (principal : Principal) (endpoint : Endpoint)
    (request : Request) : Except Refusal (Endpoint × Task) := do
  let endpoint ← match endpoint.decode? with
    | some endpoint => .ok endpoint
    | none => .error (.form 400 "Invalid UTF-8 in path")
  let task ← endpoint.action.task request settings.maxBodySize
  (authorize settings principal endpoint.database endpoint.collection
    endpoint.action.permission).mapError .error
  .ok (endpoint, task)

/-- Answers a request of a principal to an endpoint. -/
def serve (settings : GatewaySettings) (service : Service) (principal : Principal)
    (endpoint : Endpoint) (request : Request) : Response × Service :=
  match prepare settings principal endpoint request with
  | .error refusal => (refusal.response, service)
  | .ok (endpoint, task) =>
    match service.perform endpoint.database endpoint.collection task with
    | (.ok response, service) => (response, service)
    | (.error refusal, service) => (refusal.response, service)

/-- The method whose handler answers: a head is answered like the page itself. -/
def handledMethod (method : String) : String :=
  if method = "HEAD" then "GET" else method

/-- Answers a data request. -/
def answerRoute (gateway : Gateway) (occasion : Occasion) (route : Route) (request : Request) :
    Response × Gateway :=
  match identify gateway.settings request with
  | .error error => (refused error, gateway)
  | .ok (key, principal) =>
    let (allowed, limiter) :=
      gateway.limiter.allow gateway.settings.rateLimit key occasion.now
    let gateway := { gateway with limiter }
    if allowed then
      match route.endpoint? (handledMethod request.method) with
      | none => (wrongMethod, gateway)
      | some endpoint =>
        let (response, service) := serve gateway.settings gateway.service principal endpoint request
        (response, { gateway with service })
    else (refused .rateLimitExceeded, gateway)

/-! ## All requests -/

/-- Answers a request by its path. -/
def answerPath (gateway : Gateway) (occasion : Occasion) (request : Request) :
    Response × Gateway :=
  match PublicPage.ofPath? (String.ofList request.path) with
  | some page =>
    if handledMethod request.method = "GET" then gateway.showPage occasion page
    else (wrongMethod, gateway)
  | none =>
    match Route.ofPath? request.path with
    | some route => gateway.answerRoute occasion route request
    | none => (refused .notFound, gateway)

/-- Answers a request before its response is completed. -/
def answerMethod (gateway : Gateway) (occasion : Occasion) (request : Request) :
    Response × Gateway :=
  if request.method = "OPTIONS" then ({ status := 200 }, gateway)
  else if request.announcesTooMuch gateway.settings.maxBodySize then
    (.ofWords 413 "length limit exceeded", gateway)
  else gateway.answerPath occasion request

/-- The response with the headers that every response has. -/
def complete (settings : GatewaySettings) (occasion : Occasion) (request : Request)
    (response : Response) : Response :=
  let given := (request.header? "x-request-id").bind Request.plainText?
  { response with
    sendsContent := request.method ≠ "HEAD"
    requestId := some (given.getD occasion.freshId)
    allowedOrigin := if settings.enableCors then some "*" else none }

/-- Answers a request. -/
def answer (gateway : Gateway) (occasion : Occasion) (request : Request) : Response × Gateway :=
  let (response, gateway) := gateway.answerMethod occasion request
  (complete gateway.settings occasion request response, gateway)

end Gateway

end DocumentGateway

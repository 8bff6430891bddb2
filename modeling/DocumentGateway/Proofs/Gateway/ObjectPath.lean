import DocumentGateway.Proofs.Gateway.DataRequest
import DocumentGateway.Proofs.Gateway.Location
import DocumentGateway.Proofs.Http.Escape

/-!
# Paths of objects

Three segments behind the base name an object, whatever words they are: a query takes posting
away from the object, and the searches take getting too, but only where the database is not the
word of an upload. What a request does to the object is asked for on the names that the segments
stand for. As every name has a segment that stands for it and is not the word of a query, every
object can be reached.
-/
namespace DocumentGateway

open Http (StandsFor)

namespace Gateway

/-! ## Handling a request -/

/-- A request is let through to the handlers: its body is not announced as too long, and it
presents the key of a principal, which has not used up its window. -/
structure Admits (gateway : Gateway) (occasion : Occasion) (request : Http.Request)
    (key : String) (principal : Principal) : Prop where
  bodyFits : request.announcesTooMuch gateway.settings.maxBodySize = false
  identified : identify gateway.settings request = .ok (key, principal)
  allowed : (gateway.limiter.allow gateway.settings.rateLimit key occasion.now).1 = true

/-- The handler of an endpoint: it takes from the request what the action needs, asks whether the
principal may do the action on the collection, and has the service do it there. -/
def handle (settings : GatewaySettings) (service : Service) (principal : Principal)
    (endpoint : Endpoint) (request : Http.Request) : Http.Response × Service :=
  match endpoint.action.task request settings.maxBodySize with
  | .error refusal => (refusal.response, service)
  | .ok task =>
    match authorize settings principal endpoint.database endpoint.collection
        endpoint.action.permission with
    | .error error => (refused error, service)
    | .ok () =>
      let reply := service.perform endpoint.database endpoint.collection task
      (reply.response, reply.2)

/-- A method on a path reaches an endpoint: whichever gateway is asked, and whatever else the
request brings, its handler answers once the request is let through. -/
def Reaches (method : String) (path : List Char) (endpoint : Endpoint) : Prop :=
  ∀ (gateway : Gateway) (occasion : Occasion) (request : Http.Request) (key : String)
    (principal : Principal), request.method = method → request.path = path →
    gateway.Admits occasion request key principal →
      let handled := handle gateway.settings gateway.service principal endpoint request
      gateway.answer occasion request =
        (complete gateway.settings occasion request handled.1,
          { gateway with
            limiter := (gateway.limiter.allow gateway.settings.rateLimit key occasion.now).2
            service := handled.2 })

/-- A request to an endpoint is served by the handler of the endpoint with the names that the
segments stand for. -/
theorem serve_eq_handle {asked endpoint : Endpoint} (decoded : asked.decode? = some endpoint)
    (settings : GatewaySettings) (service : Service) (principal : Principal)
    (request : Http.Request) :
    serve settings service principal asked request =
      handle settings service principal endpoint request := by
  have prepared : prepare settings principal asked request =
      (endpoint.action.task request settings.maxBodySize).bind fun task =>
        ((authorize settings principal endpoint.database endpoint.collection
          endpoint.action.permission).mapError .error).bind fun _ => .ok (endpoint, task) := by
    rw [prepare, decoded]
    rfl
  unfold handle
  cases made : endpoint.action.task request settings.maxBodySize with
  | error refusal =>
    rw [made] at prepared
    simp only [serve, prepared, Except.bind]
  | ok task =>
    rw [made] at prepared
    cases authorized : authorize settings principal endpoint.database endpoint.collection
        endpoint.action.permission with
    | error error =>
      rw [authorized] at prepared
      simp only [serve, prepared, Except.bind, Except.mapError]
      rfl
    | ok granted =>
      rw [authorized] at prepared
      exact serve_prepared request service prepared

/-- A method reaches what the route at the path gives it. -/
theorem reaches_of_route {method : String} {path : List Char} {route : Route}
    {asked endpoint : Endpoint} (notOptions : method ≠ "OPTIONS")
    (routed : Route.ofPath? path = some route)
    (taken : route.endpoint? (handledMethod method) = some asked)
    (decoded : asked.decode? = some endpoint) : Reaches method path endpoint := by
  intro gateway occasion request key principal methodIs pathIs admitted handled
  subst methodIs pathIs
  have noPage := publicPage_eq_none (Route.underBase routed)
  have passed : gateway.answerMethod occasion request =
      gateway.answerRoute occasion route request := by
    simp [answerMethod, notOptions, admitted.bodyFits, answerPath, noPage, routed]
  have answered : gateway.answerRoute occasion route request =
      (handled.1, { gateway with
        limiter := (gateway.limiter.allow gateway.settings.rateLimit key occasion.now).2
        service := handled.2 }) := by
    simp only [answerRoute, admitted.identified, admitted.allowed, taken, if_true]
    rw [serve_eq_handle decoded]
  rw [answer, passed, answered]

end Gateway

namespace Route

/-- Of three segments, any method but posting asks for the object with the last one as its
identifier, apart from getting that asks for a search. -/
theorem endpoint?_ofThree {database collection id method : String} (notPost : method ≠ "POST")
    (notSearch : ¬(method = "GET" ∧ AsksForSearch database id)) :
    (ofThree database collection id).endpoint? method =
      (objectAction? id method).map (Endpoint.mk database collection) := by
  have asks : AsksForSearch database id ↔ id = "search" ∧ loadWord? database = none := by
    rw [AsksForSearch, loadWord?_eq_none_iff]
  rw [asks] at notSearch
  unfold ofThree
  cases word : loadWord? database with
  | some action => simp [endpoint?, notPost]
  | none =>
    by_cases search : id = "search"
    · have notGet : method ≠ "GET" := fun get => notSearch ⟨get, search, word⟩
      simp [search, endpoint?, notGet, notPost]
    · cases queryWord? id with
      | some action => simp [search, endpoint?, notPost]
      | none => simp [search, endpoint?]

end Route

/-- What a method does to the object at a segment is done to the object with the name that the
segment stands for. -/
theorem decode?_objectAction {segment name : String}
    (decoded : Http.segmentText? segment = some name) (method : String) :
    (Route.objectAction? segment method).bind Action.decode? = Route.objectAction? name method := by
  unfold Route.objectAction?
  split <;> simp [Action.decode?, decoded]

/-- A method that does something to objects is no question about a path, and is handled as it
is. -/
theorem plain_of_objectAction {id method : String} {action : Action}
    (taken : Route.objectAction? id method = some action) :
    method ≠ "OPTIONS" ∧ Gateway.handledMethod method = method := by
  constructor
  · rintro rfl
    cases taken
  · apply if_neg
    rintro rfl
    cases taken

namespace Gateway

section Place

variable {databaseSegment collectionSegment idSegment database collection id : String}
  (databaseStands : StandsFor databaseSegment database)
  (collectionStands : StandsFor collectionSegment collection) (idStands : StandsFor idSegment id)

include databaseStands collectionStands idStands

/-- The three segments of the place of an object are its route. -/
theorem ofPath?_place :
    Route.ofPath? (documentLocation databaseSegment collectionSegment idSegment).toList =
      some (Route.ofThree databaseSegment collectionSegment idSegment) :=
  Route.ofPath?_documentLocation databaseStands.oneSegment collectionStands.oneSegment
    idStands.oneSegment idStands.nonempty

/-- Any method but posting reaches the object at its place, apart from getting that asks for a
search. -/
theorem reaches_object {method : String} {action : Action} (notPost : method ≠ "POST")
    (notSearch : ¬(method = "GET" ∧ AsksForSearch databaseSegment idSegment))
    (taken : Route.objectAction? id method = some action) :
    Reaches method (documentLocation databaseSegment collectionSegment idSegment).toList
      ⟨database, collection, action⟩ := by
  obtain ⟨notOptions, handled⟩ := plain_of_objectAction taken
  rw [← decode?_objectAction idStands.decoded, Option.bind_eq_some_iff] at taken
  obtain ⟨asked, askedFor, decoded⟩ := taken
  apply reaches_of_route notOptions (ofPath?_place databaseStands collectionStands idStands)
  · rw [handled, Route.endpoint?_ofThree notPost notSearch, askedFor, Option.map_some]
  · simp [Endpoint.decode?, databaseStands.decoded, collectionStands.decoded, decoded]

/-- Getting that asks for a search reaches the search. -/
theorem reaches_search (asks : AsksForSearch databaseSegment idSegment) :
    Reaches "GET" (documentLocation databaseSegment collectionSegment idSegment).toList
      ⟨database, collection, .search⟩ := by
  apply reaches_of_route (by decide) (ofPath?_place databaseStands collectionStands idStands)
  · exact Route.endpoint?_ofThree_get databaseSegment collectionSegment idSegment
  · simp [Endpoint.decode?, databaseStands.decoded, collectionStands.decoded, placeAction, asks,
      Action.decode?]

end Place

/-- The place of an object with its names escaped. -/
def escapedPlace (database collection id : String) : String :=
  documentLocation (Http.escape database) (Http.escape collection) (Http.escape id)

/-- A request for an escaped place has the place as its path. -/
theorem path_eq_escapedPlace {request : Http.Request} {database collection id : String}
    (target : request.target = escapedPlace database collection id) :
    request.path = (escapedPlace database collection id).toList := by
  have absent : ∀ c, c ∉ (apiBase ++ "/").toList → c ≠ '/' → c ≠ '%' → Json.hexValue? c = none →
      c ∉ (escapedPlace database collection id).toList := by
    intro c notInBase notSlash noPercent noDigit
    apply notMem_documentLocation notInBase notSlash
    · exact Http.notMem_escape noPercent noDigit database
    · exact Http.notMem_escape noPercent noDigit collection
    · exact Http.notMem_escape noPercent noDigit id
  have noQuery := absent '?' (by decide) (by decide) (by decide) (by decide)
  have noFragment := absent '#' (by decide) (by decide) (by decide) (by decide)
  exact (path_eq_place target noQuery noFragment).1

/-- Whatever words the three segments of a place are, putting and deleting reach the object with
the names that they stand for, and getting does so too, unless the last segment is the word of the
searches and the first one that of no upload: then it reaches the search. Every object has a place
at which all three methods reach it. -/
theorem object_reached_at_place :
    (∀ databaseSegment collectionSegment idSegment database collection id : String,
      StandsFor databaseSegment database → StandsFor collectionSegment collection →
      StandsFor idSegment id →
        let path := (documentLocation databaseSegment collectionSegment idSegment).toList
        Reaches "PUT" path ⟨database, collection, .replace id⟩ ∧
          Reaches "DELETE" path ⟨database, collection, .delete id⟩ ∧
          (¬(idSegment = "search" ∧ databaseSegment ≠ "multi" ∧ databaseSegment ≠ "bulk") →
            Reaches "GET" path ⟨database, collection, .get id⟩) ∧
          (idSegment = "search" ∧ databaseSegment ≠ "multi" ∧ databaseSegment ≠ "bulk" →
            Reaches "GET" path ⟨database, collection, .search⟩)) ∧
      ∀ database collection id : String, database ≠ "" → collection ≠ "" → id ≠ "" →
        ∃ place : String,
          (∀ request : Http.Request, request.target = place → request.path = place.toList) ∧
          Reaches "PUT" place.toList ⟨database, collection, .replace id⟩ ∧
          Reaches "DELETE" place.toList ⟨database, collection, .delete id⟩ ∧
          Reaches "GET" place.toList ⟨database, collection, .get id⟩ := by
  constructor
  · intro databaseSegment collectionSegment idSegment database collection id databaseStands
      collectionStands idStands path
    refine ⟨?_, ?_, ?_, ?_⟩
    · exact reaches_object databaseStands collectionStands idStands (by decide) (by simp) rfl
    · exact reaches_object databaseStands collectionStands idStands (by decide) (by simp) rfl
    · intro notSearch
      exact reaches_object databaseStands collectionStands idStands (by decide)
        (fun both => notSearch both.2) rfl
    · exact reaches_search databaseStands collectionStands idStands
  · intro database collection id databaseNonempty collectionNonempty idNonempty
    have databaseStands := Http.standsFor_escape databaseNonempty
    have collectionStands := Http.standsFor_escape collectionNonempty
    have idStands := Http.standsFor_escape idNonempty
    have notSearch : ¬AsksForSearch (Http.escape database) (Http.escape id) := by
      rintro ⟨search, -⟩
      obtain ⟨rest, begins⟩ := Http.escape_begins idNonempty
      rw [search] at begins
      cases begins
    refine ⟨escapedPlace database collection id, ?_, ?_, ?_, ?_⟩
    · intro request target
      exact path_eq_escapedPlace target
    · exact reaches_object databaseStands collectionStands idStands (by decide) (by simp) rfl
    · exact reaches_object databaseStands collectionStands idStands (by decide) (by simp) rfl
    · exact reaches_object databaseStands collectionStands idStands (by decide)
        (fun both => notSearch both.2) rfl

/-- A gateway whose store holds one document, and whose only key may read its collection. -/
def withOneDocument : Gateway where
  settings := { apiKeys := SortedMap.empty.insert "k" "objgate.objects.multi.c+d.read" }
  limiter := .empty
  service :=
    { store :=
        { backend := .memory ⟨SortedMap.empty.insert "multi/c+d"
            (SortedMap.empty.insert "search" (.plain "\x7b\x7d"))⟩
          compression := { codec := .none }
          immutable := .empty
          ids := ⟨0, fun _ => "spare"⟩ }
      compiler := {}
      health := {}
      probes := 0
      records := [] }

/-- A document with the name of a search, in a database with the name of an upload and a collection
that is escaped, is got at its place. -/
theorem object_reached_at_place_search :
    let request : Http.Request := ⟨"GET", "/api/1.0/multi/c%2bd/search", [("x-api-key", [107])], []⟩
    (StandsFor "multi" "multi" ∧ StandsFor "c%2bd" "c+d" ∧ StandsFor "search" "search") ∧
      (∃ principal, withOneDocument.Admits {} request "k" principal) ∧
      (withOneDocument.answer {} request).1.status = 200 := by
  intro request
  have database : StandsFor "multi" "multi" := ⟨by decide, by decide, by decide⟩
  have collection : StandsFor "c%2bd" "c+d" := ⟨by decide, by decide, by decide⟩
  have id : StandsFor "search" "search" := ⟨by decide, by decide, by decide⟩
  have admitted : withOneDocument.Admits {} request "k"
      ⟨"k…", ["objgate.objects.multi.c+d.read"]⟩ :=
    ⟨by decide, by rfl, by decide⟩
  have reached := (object_reached_at_place.1 _ _ _ _ _ _ database collection id).2.2.1 (by decide)
  refine ⟨⟨database, collection, id⟩, ⟨_, admitted⟩, ?_⟩
  rw [reached withOneDocument {} request "k" _ rfl (by decide) admitted]
  decide

end Gateway

end DocumentGateway

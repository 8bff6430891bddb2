import DocumentGateway.Proofs.Gateway.FailedRequest
import DocumentGateway.Proofs.Gateway.Location
import DocumentGateway.Proofs.Store.InsertedDocument

/-!
# Finding inserted documents

An insertion of one document is answered with the place of the document. Whoever may read
the collection and gets the place finds the document there just as it is stored, unless the
identifier is that of the searches: their route is asked first, and it stands aside only
where the database has the name of a route of its own.
-/
namespace DocumentGateway

/-- A response shows a document, and nothing else. -/
structure Http.Response.Shows (response : Http.Response) (document : Document) : Prop where
  status : response.status = 200
  content : response.content = .json (.object document)
  sent : response.sendsContent = true

/-- Posting to the route inserts one document: the route is that of a collection or of an
object in it, with these names as they are written in the path. -/
def Route.TakesDocument (route : Route) (database collection : String) : Prop :=
  route = .wholeCollection database collection ∨ ∃ id, route = .object database collection id

/-! ## Replies -/

namespace Service

variable (service : Service) (database collection : String)

/-- A reply that goes on with what was read is a success only if it was read. -/
theorem whenRead_success {α : Type} {read : Except GatewayError α} {next : α → Reply}
    (success : (service.whenRead read next).response.status < 400) :
    ∃ value, read = .ok value ∧ service.whenRead read next = next value := by
  cases read with
  | ok value => exact ⟨value, rfl, rfl⟩
  | error error => exact absurd success (Nat.not_lt.mpr error.isFailure)

/-- A reply that goes on with an outcome is a success only if the outcome is one. -/
theorem next_success {α : Type} {outcome : Outcome α} {next : α → Service → Reply}
    (success : (outcome.next next).response.status < 400) :
    ∃ value, outcome.1 = .ok value ∧ outcome.next next = next value outcome.2 := by
  obtain ⟨result, after⟩ := outcome
  cases result with
  | ok value => exact ⟨value, rfl, rfl⟩
  | error error => exact absurd success (Nat.not_lt.mpr (GatewayError.store error).isFailure)

/-- An insertion that is answered as a success has stored the document of its body under an
identifier, and answers the place of the document. -/
theorem replyInsert_success {given : Option String} {format : ResponseFormat} {body : Bytes}
    (success : (service.replyInsert database collection given format body).response.status < 400) :
    let reply := service.replyInsert database collection given format body
    ∃ id members, bodyJson body = .ok (.object members) ∧ reply.response.status = 201 ∧
      reply.response.location = some (documentLocation database collection id) ∧
      checkedAddress database collection = .ok (address database collection) ∧
      DocumentStore.chooseId given members (service.store.ids.id service.store.ids.given) = .ok id ∧
      reply.2.store.backend.get? (address database collection) id =
        some (reply.2.store.compression.encode (withId id members)) := by
  obtain ⟨value, readBody, goesOn⟩ := service.whenRead_success success
  have inserts := success
  rw [replyInsert, goesOn] at inserts
  obtain ⟨document, outcome, -⟩ := next_success inserts
  have stored : (service.store.insert database collection given value).1 = .ok document := outcome
  obtain ⟨space, id, members, writable, rfl, chosen, rfl, -, present, kept⟩ :=
    service.store.insert_ok database collection stored
  have checked := ((writableAddress_ok_iff _ _ _ _).mp writable).1
  obtain ⟨-, -, rfl⟩ := (checkedAddress_ok_iff _ _ _).mp checked
  have identified : Keyed.get? "_id" (withId id members) = some (.string id) := by
    simp [withId, Keyed.get?]
  rw [service.replyInsert_eq database collection format readBody stored identified] at success ⊢
  unfold created at success ⊢
  dsimp only at success ⊢
  split at success
  · rename_i placed
    rw [if_pos placed]
    exact ⟨id, members, readBody, rfl, rfl, checked, chosen, present.trans (by rw [← kept]; rfl)⟩
  · exact absurd success (by simp [Reply.response, Refusal.response, Http.Response.ofWords])

/-- Getting a document that is there replies with the document. -/
theorem response_get {id : String} {document : Document}
    (found : service.store.get database collection id = .ok (some document)) :
    (service.perform database collection (.get id)).response = .ofJson 200 (.object document) := by
  simp only [perform, get, record, found]
  rfl

/-- A search that is answered as a success replies with a list of documents. -/
theorem response_search {parameters : SearchParameters}
    (success : (service.perform database collection (.search parameters)).response.status < 400) :
    ∃ documents, (service.perform database collection (.search parameters)).response =
      .ofJson 200 (documentList documents) := by
  obtain ⟨selection, -, searches⟩ := service.whenRead_success success
  rw [perform, replySearch, searches] at success
  obtain ⟨documents, -, lists⟩ := next_success success
  exact ⟨documents, congrArg Reply.response (searches.trans lists)⟩

end Service

namespace Gateway

variable {gateway : Gateway} {occasion : Occasion} {request : Http.Request}

/-! ## Getting a place -/

/-- A request that gets a place, by a caller who may read the collection and has not used up
its window. -/
structure Gets (gateway : Gateway) (occasion : Occasion) (request : Http.Request)
    (database collection place : String) : Prop where
  method : request.method = "GET"
  target : request.target = place
  bodyFits : request.announcesTooMuch gateway.settings.maxBodySize = false
  caller : ∃ key principal, identify gateway.settings request = .ok (key, principal) ∧
    principal.hasScope (gateway.settings.scopeRoot.scope database collection .read) = true ∧
    (gateway.limiter.allow gateway.settings.rateLimit key occasion.now).1 = true

/-- The task of getting the place of a document. -/
def placeTask (database id : String) : Task :=
  if AsksForSearch database id then .search {} else .get id

/-- Without a query, getting a place needs nothing of the request. -/
theorem task_placeAction (database id : String) (noQuery : request.query = []) (limit : Nat) :
    (placeAction database id).task request limit = .ok (placeTask database id) := by
  unfold placeAction placeTask
  split
  · simp only [Action.task, Http.Request.parameters, noQuery]
    rfl
  · rfl

/-- A caller who may read the collection is let to get a place in it. -/
theorem performed?_of_gets {database collection id : String}
    (placeable : Placeable database collection id)
    (checked : checkedAddress database collection = .ok (address database collection))
    (nonempty : id ≠ "") (undotted : '.' ∉ database.toList)
    (gets : gateway.Gets occasion request database collection
      (documentLocation database collection id)) :
    gateway.performed? occasion request =
      some (⟨database, collection, placeAction database id⟩, placeTask database id) := by
  obtain ⟨validDatabase, validCollection, -⟩ := (checkedAddress_ok_iff _ _ _).mp checked
  obtain ⟨key, principal, identified, mayRead, allowed⟩ := gets.caller
  obtain ⟨path, noQuery⟩ := path_of_place gets.target placeable
  have authorized : authorize gateway.settings principal database collection .read = .ok () := by
    simp [authorize, undotted, mayRead]
  refine (gateway.performed?_eq_some_iff occasion request).mpr ?_
  refine ⟨by simp [gets.method], gets.bodyFits, Route.ofThree database collection id, key,
    principal, ⟨database, collection, placeAction database id⟩, ?_, identified, ?_, allowed, ?_⟩
  · rw [path]
    exact Route.ofPath?_documentLocation validDatabase.slashFree validCollection.slashFree
      placeable.oneSegment nonempty
  · rw [gets.method]
    exact Route.endpoint?_ofThree_get database collection id
  · refine (prepare_ok_iff request).mpr ⟨decode?_placeAction placeable,
      task_placeAction database id noQuery _, ?_⟩
    rw [permission_placeAction]
    exact authorized

/-- Getting the place of a document shows it, unless that asks for a search. -/
theorem shows_iff_of_gets {database collection id : String} {document : Document}
    (placeable : Placeable database collection id)
    (checked : checkedAddress database collection = .ok (address database collection))
    (nonempty : id ≠ "") (undotted : '.' ∉ database.toList)
    (found : gateway.service.store.get database collection id = .ok (some document))
    (gets : gateway.Gets occasion request database collection
      (documentLocation database collection id)) :
    (gateway.answer occasion request).1.Shows document ↔ ¬ AsksForSearch database id := by
  obtain ⟨_, answered⟩ := gateway.answer_of_performed occasion request
    (performed?_of_gets placeable checked nonempty undotted gets)
  rw [answered]
  by_cases search : AsksForSearch database id
  · refine iff_of_false (fun shown => ?_) (not_not.mpr search)
    rw [placeTask, if_pos search] at shown
    obtain ⟨status, content, -⟩ := shown
    dsimp only [complete] at status content
    obtain ⟨documents, listed⟩ :=
      gateway.service.response_search database collection (by rw [status]; decide)
    rw [listed] at content
    cases content
  · refine iff_of_true ?_ search
    rw [placeTask, if_neg search]
    dsimp only
    rw [gateway.service.response_get database collection found]
    exact ⟨rfl, rfl, by simp [complete, gets.method]⟩

/-! ## Inserting one document -/

/-- A body within its limits is the body of the request. -/
theorem body_of_bodyBytes {limit : Nat} {body : Bytes}
    (read : request.bodyBytes limit = .ok body) : body = request.body := by
  unfold Http.Request.bodyBytes Http.Request.limitedBody? at read
  split at read
  · rename_i found
    obtain ⟨-, same⟩ := Option.ite_none_right_eq_some.mp found
    exact (Except.ok.inj read).symm.trans (Option.some.inj same).symm
  · cases read

/-- What takes one document takes the body of the request. -/
theorem task_insertion {action : Action} {limit : Nat} {task : Task}
    (inserts : action = .insertNew ∨ ∃ id, action = .insert id)
    (made : action.task request limit = .ok task) :
    ∃ given format, task = .insert given format request.body := by
  rcases inserts with rfl | ⟨id, rfl⟩
  · simp only [Action.task, bind_eq_ok_iff] at made
    obtain ⟨format, -, body, read, made⟩ := made
    exact ⟨none, format, body_of_bodyBytes read ▸ (Except.ok.inj made).symm⟩
  · simp only [Action.task, bind_eq_ok_iff] at made
    obtain ⟨format, -, body, read, made⟩ := made
    exact ⟨some id, format, body_of_bodyBytes read ▸ (Except.ok.inj made).symm⟩

/-- Posting to such a route is to insert the body of the request into the collection that the
path names. -/
theorem insertion_of_performed {route : Route} {first second : String} {endpoint : Endpoint}
    {task : Task} (posted : request.method = "POST")
    (routed : Route.ofPath? request.path = some route) (takes : route.TakesDocument first second)
    (performed : gateway.performed? occasion request = some (endpoint, task)) :
    Http.segmentText? first = some endpoint.database ∧
      Http.segmentText? second = some endpoint.collection ∧ '.' ∉ endpoint.database.toList ∧
      ∃ given format, task = .insert given format request.body := by
  obtain ⟨-, -, _, key, principal, asked, routedHere, -, taken, -, prepared⟩ :=
    (gateway.performed?_eq_some_iff occasion request).mp performed
  obtain rfl := Option.some.inj (routed.symm.trans routedHere)
  obtain ⟨decoded, made, authorized⟩ := (prepare_ok_iff request).mp prepared
  obtain ⟨action, rfl, inserts⟩ : ∃ action, asked = ⟨first, second, action⟩ ∧
      (action = .insertNew ∨ ∃ id, action = .insert id) := by
    rw [posted] at taken
    rcases takes with rfl | ⟨id, rfl⟩
    · exact ⟨.insertNew, (Option.some.inj taken).symm, .inl rfl⟩
    · exact ⟨.insert id, (Option.some.inj taken).symm, .inr ⟨id, rfl⟩⟩
  simp only [Endpoint.decode?, Option.bind_eq_bind, Option.bind_eq_some_iff] at decoded
  obtain ⟨database, databaseText, collection, collectionText, meant, actionText, same⟩ := decoded
  obtain rfl := Option.some.inj same
  have insertsMeant : meant = .insertNew ∨ ∃ id, meant = .insert id := by
    rcases inserts with rfl | ⟨id, rfl⟩
    · exact .inl (Option.some.inj actionText).symm
    · obtain ⟨id, -, rfl⟩ := Option.map_eq_some_iff.mp actionText
      exact .inr ⟨id, rfl⟩
  refine ⟨databaseText, collectionText, fun dotted => ?_, task_insertion insertsMeant made⟩
  simp [authorize, dotted] at authorized

/-- A document that is inserted is answered with its place. If the names in the place mean
themselves there and the floating-point numbers of the document read back, then getting the
place before anything else is asked shows the document exactly as it was stored, except
exactly if that asks for a search. -/
theorem inserted_document_shown_iff {insertion : Http.Request} {route : Route}
    {first second : String} (posted : insertion.method = "POST")
    (routed : Route.ofPath? insertion.path = some route) (takes : route.TakesDocument first second)
    (supplied : gateway.service.store.ids.id gateway.service.store.ids.given ≠ "")
    (success : (gateway.answer occasion insertion).1.status < 400) :
    let response := (gateway.answer occasion insertion).1
    let after := (gateway.answer occasion insertion).2
    ∃ database collection id members,
      Http.segmentText? first = some database ∧ Http.segmentText? second = some collection ∧
      bodyJson insertion.body = .ok (.object members) ∧ response.status = 201 ∧
      response.location = some (documentLocation database collection id) ∧
      after.service.store.backend.get? (address database collection) id =
        some (after.service.store.compression.encode (withId id members)) ∧
      (Placeable database collection id → (Json.object members).Exact →
        ∀ later request,
          after.Gets later request database collection (documentLocation database collection id) →
          ((after.answer later request).1.Shows (withId id members) ↔
            ¬ AsksForSearch database id)) := by
  intro response after
  obtain ⟨⟨database, collection, action⟩, task, performed⟩ :=
    gateway.performed_of_success occasion insertion (Route.underBase routed) (by simp [posted]) success
  obtain ⟨databaseText, collectionText, undotted, given, format, rfl⟩ :=
    insertion_of_performed posted routed takes performed
  obtain ⟨_, answered⟩ := gateway.answer_of_performed occasion insertion performed
  have replied : response.status =
      (gateway.service.replyInsert database collection given format insertion.body).response.status :=
    congrArg (·.1.status) answered
  obtain ⟨id, members, read, created, place, checked, chosen, stored⟩ :=
    gateway.service.replyInsert_success database collection (replied ▸ success)
  have responded : response.location = some (documentLocation database collection id) :=
    (congrArg (·.1.location) answered).trans place
  have serviceAfter : after.service =
      (gateway.service.replyInsert database collection given format insertion.body).2 :=
    congrArg (·.2.service) answered
  rw [← serviceAfter] at stored
  refine ⟨database, collection, id, members, databaseText, collectionText, read,
    replied.trans created, responded, stored, fun placeable exact later request gets => ?_⟩
  obtain ⟨text, parsed⟩ : ∃ text, Json.ofText? text = some (.object members) := by
    unfold bodyJson at read
    split at read
    · rename_i value found
      obtain ⟨text, -, parsed⟩ := Option.bind_eq_some_iff.mp found
      exact ⟨text, Except.ok.inj read ▸ parsed⟩
    · cases read
  exact shows_iff_of_gets placeable checked (DocumentStore.chooseId_nonempty chosen supplied)
    undotted (DocumentStore.get_of_stored parsed exact checked stored) gets

/-! ## A gateway with one caller -/

/-- A gateway whose one key is let to insert and to read everywhere. -/
def withOneWriter : Gateway :=
  withOneScope "objgate.objects.*.*.insert objgate.objects.*.*.read"

/-- A request with the key `k` to get what is at a target. -/
def placeRequest (target : String) : Http.Request :=
  ⟨"GET", target, [("x-api-key", [107])], []⟩

/-- The one caller gets a place as long as its window is not used up. -/
theorem gets_of_oneWriter {after : Gateway} (settings : after.settings = withOneWriter.settings)
    (allowed : (after.limiter.allow after.settings.rateLimit "k" 0).1 = true) (place : String) :
    after.Gets {} (placeRequest place) "db" "c" place := by
  let caller : Principal := ⟨"k…", ["objgate.objects.*.*.insert", "objgate.objects.*.*.read"]⟩
  have identified : identify withOneWriter.settings (placeRequest place) = .ok ("k", caller) := by
    rfl
  have mayRead : caller.hasScope
      (withOneWriter.settings.scopeRoot.scope "db" "c" .read) = true := by
    decide
  rw [← settings] at identified mayRead
  exact ⟨rfl, rfl, rfl, "k", caller, identified, mayRead, allowed⟩

/-- The document of an empty body is found at the place that its insertion answers. -/
theorem spare_document_shown :
    let insertion := emptyInsertion "/api/1.0/db/c"
    let response := (withOneWriter.answer {} insertion).1
    let after := (withOneWriter.answer {} insertion).2
    response.location = some "/api/1.0/db/c/spare" ∧
      (after.answer {} (placeRequest "/api/1.0/db/c/spare")).1.Shows [("_id", .string "spare")] := by
  intro insertion response after
  have located : (withOneWriter.answer {} insertion).1.location = some "/api/1.0/db/c/spare" := by
    decide
  obtain ⟨database, collection, id, members, databaseText, collectionText, read, -, place, -, shown⟩ :=
    @inserted_document_shown_iff withOneWriter {} insertion (.wholeCollection "db" "c") "db" "c"
      rfl (by decide) (.inl rfl) (by decide) (by decide)
  obtain rfl : "db" = database := Option.some.inj
    ((Http.segmentText?_eq_self (by decide)).symm.trans databaseText)
  obtain rfl : "c" = collection := Option.some.inj
    ((Http.segmentText?_eq_self (by decide)).symm.trans collectionText)
  obtain rfl : id = "spare" := documentLocation_inj (Option.some.inj (place.symm.trans located))
  have empty : bodyJson insertion.body = .ok (.object []) := by rfl
  obtain rfl : members = [] := Json.object.inj (Except.ok.inj (read.symm.trans empty))
  have settings := withOneWriter.settings_answer {} insertion
  refine ⟨located, (shown ?_ ?_ {} _ (gets_of_oneWriter settings (by decide) _)).mpr (by decide)⟩
  · exact ⟨by decide, by decide, by decide, by decide⟩
  · rintro _ ⟨⟩ member inEmpty
    cases inEmpty

/-- A document whose identifier is that of the searches is stored and answered with its
place, and getting the place does not show it. -/
theorem search_document_not_shown :
    let insertion := emptyInsertion "/api/1.0/db/c/%73earch"
    let response := (withOneWriter.answer {} insertion).1
    let after := (withOneWriter.answer {} insertion).2
    let request := placeRequest "/api/1.0/db/c/search"
    response.status = 201 ∧ response.location = some "/api/1.0/db/c/search" ∧
      after.service.store.get "db" "c" "search" = .ok (some [("_id", .string "search")]) ∧
      after.Gets {} request "db" "c" "/api/1.0/db/c/search" ∧
      ¬ (after.answer {} request).1.Shows [("_id", .string "search")] := by
  intro insertion response after request
  have gets : after.Gets {} request "db" "c" "/api/1.0/db/c/search" :=
    gets_of_oneWriter (withOneWriter.settings_answer {} insertion) (by decide) _
  have checked : checkedAddress "db" "c" = .ok (address "db" "c") := by rfl
  have stored : after.service.store.backend.get? (address "db" "c") "search" =
      some (after.service.store.compression.encode (withId "search" [])) := by decide +kernel
  have found : after.service.store.get "db" "c" "search" =
      .ok (some [("_id", .string "search")]) :=
    DocumentStore.get_of_stored (by rfl : Json.ofText? "\x7b\x7d" = some (.object []))
      (by rintro _ ⟨⟩ _ ⟨⟩) checked stored
  have placeable : Placeable "db" "c" "search" :=
    ⟨by decide, by decide, by decide, by decide⟩
  refine ⟨by decide, by decide, found, gets, fun shown => ?_⟩
  have asks := (shows_iff_of_gets placeable checked (by decide) (by decide) found gets).mp shown
  exact asks (by decide)

end Gateway

end DocumentGateway

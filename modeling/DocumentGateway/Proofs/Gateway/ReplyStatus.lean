import DocumentGateway.Proofs.Gateway.DataRequest

/-!
# Statuses of replies

A task is answered with what it found, or as a fault of the caller, or as one inside. Its
status is then one of a few, and whoever gets it knows that the request came as far as its
task: a request that is turned away for its key or its number is answered with another one.
-/
namespace DocumentGateway

/-- The statuses of replies to tasks. -/
def replyStatuses : List Nat :=
  [200, 201, 400, 404, 500]

/-- A reply has one of the statuses of replies. -/
def Reply.Usual (reply : Reply) : Prop :=
  reply.response.status ∈ replyStatuses

/-! ## What is read before a task is done -/

/-- A result that is a value or is the fault of the caller. -/
def RejectsProperly {α : Type} (result : Except GatewayError α) : Prop :=
  ∀ error, result = .error error → error.status = 400

namespace RejectsProperly

variable {α β : Type}

/-- A value rejects nothing. -/
theorem ok (value : α) : RejectsProperly (.ok value : Except GatewayError α) :=
  fun _ rejected => nomatch rejected

/-- A bad request is the fault of the caller. -/
theorem badRequest (reason : String) :
    RejectsProperly (.error (.badRequest reason) : Except GatewayError α) := by
  rintro _ ⟨⟩
  rfl

/-- To map the value changes nothing about the rejections. -/
theorem map {result : Except GatewayError α} (proper : RejectsProperly result) (f : α → β) :
    RejectsProperly (result.map f) := by
  cases result with
  | ok value => exact ok (f value)
  | error error => exact fun _ rejected => proper _ (by cases rejected; rfl)

/-- Two steps in a row reject properly if each of them does. -/
theorem bind {result : Except GatewayError α} {next : α → Except GatewayError β}
    (proper : RejectsProperly result) (properNext : ∀ value, RejectsProperly (next value)) :
    RejectsProperly (result >>= next) := by
  cases result with
  | ok value => exact properNext value
  | error error => exact fun _ rejected => proper _ (by cases rejected; rfl)

/-- A word that names no direction is the fault of the caller. -/
theorem direction (paging : Paging) : RejectsProperly paging.direction := by
  unfold Paging.direction
  split
  · rename_i word _
    cases Direction.ofWord word with
    | ok direction => exact ok direction
    | error error =>
      rintro _ ⟨⟩
      rfl
  · exact ok _

/-- Paging parameters that are out of range are the fault of the caller. -/
theorem selection (paging : Paging) : RejectsProperly paging.selection := by
  have sortKey : RejectsProperly paging.sortKey := by
    unfold Paging.sortKey
    split
    · split
      · exact ok _
      · exact (direction paging).map _
    · exact ok _
  simp only [Paging.selection]
  split
  · exact badRequest _
  · split
    · exact badRequest _
    · exact bind sortKey fun sort => ok _

/-- A body that is no JSON text is the fault of the caller. -/
theorem bodyJson (body : Bytes) : RejectsProperly (bodyJson body) := by
  unfold DocumentGateway.bodyJson
  split
  · exact ok _
  · exact badRequest _

/-- A body that is no list of values is the fault of the caller. -/
theorem bodyItems (body : Bytes) : RejectsProperly (bodyItems body) := by
  unfold DocumentGateway.bodyItems
  split
  · exact ok _
  · exact badRequest _
  · rename_i error rejected
    rintro _ ⟨⟩
    exact bodyJson body error rejected

/-- An upload without readable rows is the fault of the caller. -/
theorem uploadedDocuments (boundary : String) (body : Option Bytes) :
    RejectsProperly (uploadedDocuments boundary body) := by
  refine bind ?_ fun content => ?_
  · unfold uploadedCsv
    split
    · exact badRequest _
    · exact badRequest _
    · exact ok _
  · split
    · exact badRequest _
    · exact badRequest _
    · exact ok _

end RejectsProperly

/-! ## Replies -/

namespace Service

variable {service : Service} {α : Type}

/-- An answer with a value has a usual status. -/
theorem usual_reply (value : Json) : (service.reply value).Usual :=
  List.mem_cons_self

/-- What is not there is answered so. -/
theorem usual_refuse {error : GatewayError} (absent : error.status = 404) :
    (service.refuse error).Usual := by
  change error.status ∈ replyStatuses
  rw [absent]
  decide

/-- The failures of operations have usual statuses, so only the answer to a success is to be
looked at. -/
theorem usual_next {outcome : Outcome α} {next : α → Service → Reply}
    (done : ∀ value after, (next value after).Usual) : (outcome.next next).Usual := by
  obtain ⟨result, after⟩ := outcome
  cases result with
  | ok value => exact done value after
  | error error =>
    change (GatewayError.store error).status ∈ replyStatuses
    simp only [GatewayError.status]
    split <;> decide

/-- What is the fault of the caller is answered with a usual status. -/
theorem usual_whenRead {read : Except GatewayError α} {next : α → Reply}
    (proper : RejectsProperly read) (done : ∀ value, (next value).Usual) :
    (service.whenRead read next).Usual := by
  cases read with
  | ok value => exact done value
  | error error =>
    change error.status ∈ replyStatuses
    rw [proper error rfl]
    decide

/-- A document without an identifier is a fault inside. -/
theorem usual_storedId {document : Document} {next : String → Except Refusal Http.Response}
    (done : ∀ id, Reply.Usual (next id, service)) :
    Reply.Usual (((storedId document).mapError .error) >>= next, service) := by
  unfold storedId
  split
  · exact done _
  · change (500 : Nat) ∈ replyStatuses
    decide

/-- An insertion is answered with a usual status, also if its place cannot stand in a header. -/
theorem usual_inserted (format : ResponseFormat) (database collection : String)
    (document : Document) :
    Reply.Usual (inserted format database collection document, service) := by
  refine usual_storedId fun id => ?_
  simp only [created]
  split <;>
  · simp only [Reply.Usual, Reply.response, Refusal.response]
    decide

/-- A replacement is answered with a usual status. -/
theorem usual_replaced (format : ResponseFormat) (document : Document) :
    Reply.Usual (replaced format document, service) := by
  cases format with
  | entireObject => exact List.mem_cons_self
  | onlyId => exact usual_storedId fun id => List.mem_cons_self

/-- A batch is answered with a usual status. -/
theorem usual_replyInsertMany (service : Service) (database collection : String)
    {bodies : Except GatewayError (List Json)} (proper : RejectsProperly bodies) :
    (service.replyInsertMany database collection bodies).Usual :=
  usual_whenRead proper fun _ => usual_next fun _ _ => usual_reply _

/-- Every task is answered with one of the statuses of replies. -/
theorem usual_perform (service : Service) (database collection : String) (task : Task) :
    (service.perform database collection task).Usual := by
  cases task with
  | getAll =>
    refine usual_next fun present after => ?_
    split
    · exact usual_next fun _ _ => usual_reply _
    · exact usual_refuse rfl
  | dropCollection =>
    refine usual_next fun present after => ?_
    split
    · refine usual_next fun dropped after => ?_
      split
      · exact List.mem_cons_self
      · exact usual_refuse rfl
    · exact usual_refuse rfl
  | get id =>
    refine usual_next fun found after => ?_
    split
    · exact usual_reply _
    · exact usual_refuse rfl
  | delete id =>
    refine usual_next fun deleted after => ?_
    split
    · exact List.mem_cons_self
    · exact usual_refuse rfl
  | insert id format body =>
    exact usual_whenRead (.bodyJson body) fun _ => usual_next fun _ _ => usual_inserted ..
  | replace id format body =>
    refine usual_whenRead (.bodyJson body) fun _ => usual_next fun found after => ?_
    split
    · exact usual_replaced ..
    · exact usual_refuse rfl
  | find paging filter =>
    exact usual_whenRead (.selection paging) fun _ => usual_next fun _ _ => usual_reply _
  | search parameters =>
    exact usual_whenRead (.selection _) fun _ => usual_next fun _ _ => usual_reply _
  | explain search => exact usual_reply _
  | count filter | distinct field filter | aggregate pipeline =>
    exact usual_next fun _ _ => usual_reply _
  | insertMany body => exact service.usual_replyInsertMany _ _ (.bodyItems body)
  | insertCsv boundary body =>
    exact service.usual_replyInsertMany _ _ (.uploadedDocuments boundary body)

end Service

/-- Whoever is served is never told that a key is missing or that there were too many
requests. -/
theorem Gateway.serve_status (settings : GatewaySettings) (service : Service)
    (principal : Principal) (endpoint : Endpoint) (request : Http.Request) :
    (serve settings service principal endpoint request).1.status ∈ properFailures ++ replyStatuses := by
  cases prepared : prepare settings principal endpoint request with
  | error refusal =>
    simp only [serve, prepared]
    exact List.mem_append_left _ (prepare_failsProperly request _ _ _ refusal prepared)
  | ok item =>
    rw [serve_prepared request service prepared]
    exact List.mem_append_right _ (service.usual_perform ..)

end DocumentGateway

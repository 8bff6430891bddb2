import DocumentGateway.Proofs.Gateway.DataRequest
import DocumentGateway.Proofs.Store.FailedWrite

/-!
# Requests that fail

A request under the base of the data routes performs at most one task. Of all tasks only
the insertion of one document can still fail after it has written: the document is
stored, and then the place where it is found has to stand in a header, which names with
control characters cannot. Every other answer with the status of an error leaves the
documents of all collections as they were.
-/
namespace DocumentGateway

open DocumentStore (SameDocuments)

/-- If the reply has the status of an error, the documents are those that were there
before. -/
def Reply.Settled (before : Service) (reply : Reply) : Prop :=
  400 ≤ reply.response.status → before.store.SameDocuments reply.2.store

namespace Service

variable {before service : Service}

/-- A reply that leaves the store as it is is settled, whatever its status. -/
theorem settled_of_same {reply : Reply} (same : before.store.SameDocuments reply.2.store) :
    reply.Settled before :=
  fun _ => same

/-- A reply with the status of a success is settled, whatever has been written. -/
theorem settled_of_success {response : Http.Response} (success : response.status < 400) :
    Reply.Settled before (.ok response, service) :=
  fun failed => absurd success (Nat.not_lt.mpr failed)

/-- An answer with a value is no failure, so there is nothing to keep. -/
theorem settled_reply (value : Json) : (service.reply value).Settled before :=
  settled_of_success (by decide : (200 : Nat) < 400)

/-- A refusal is settled if the documents are still those from before. -/
theorem settled_refuse (error : GatewayError) (same : before.store.SameDocuments service.store) :
    (service.refuse error).Settled before :=
  settled_of_same same

/-- To go on with an outcome is settled if the outcome wrote nothing when it failed, and
what follows is settled when it succeeded. -/
theorem settled_next {α : Type} {outcome : Outcome α} {next : α → Service → Reply}
    (failed : ∀ error, outcome.1 = .error error → before.store.SameDocuments outcome.2.store)
    (done : ∀ value, outcome.1 = .ok value → (next value outcome.2).Settled before) :
    (outcome.next next).Settled before := by
  obtain ⟨result, after⟩ := outcome
  cases result with
  | error error => exact settled_of_same (failed error rfl)
  | ok value => exact done value rfl

/-- To go on with what was read is settled if what follows is. -/
theorem settled_read {α : Type} {operation : Operation} {result : Except StoreError α}
    {next : α → Service → Reply} (same : before.store.SameDocuments service.store)
    (done : ∀ value after, after.store = service.store → (next value after).Settled before) :
    ((service.record operation result).next next).Settled before :=
  settled_next (fun _ _ => same) fun value _ => done value _ rfl

/-- What cannot be read is refused before anything is done. -/
theorem settled_whenRead {α : Type} {read : Except GatewayError α} {next : α → Reply}
    (done : ∀ value, read = .ok value → (next value).Settled service) :
    (service.whenRead read next).Settled service := by
  cases read with
  | error error => exact settled_of_same (.refl service.store)
  | ok value => exact done value rfl

/-! ## Tasks -/

variable (service) (database collection : String)

/-- To show all documents changes none of them. -/
theorem settled_replyAll : (service.replyAll database collection).Settled service := by
  refine settled_read (.refl _) fun present after same => ?_
  split
  · exact settled_read (same ▸ .refl _) fun documents _ _ => settled_reply _
  · exact settled_refuse _ (same ▸ .refl _)

/-- A dropping is answered as an error only if the collection is not there or may not be
written to. -/
theorem settled_replyDrop : (service.replyDrop database collection).Settled service := by
  refine settled_read (.refl _) fun present after same => ?_
  split
  · refine settled_next (fun error failed => ?_) fun dropped outcome => ?_
    · exact same ▸ after.store.dropCollection_undone database collection fun done =>
        nomatch failed.symm.trans done
    · split
      · exact settled_of_success (by decide : (200 : Nat) < 400)
      · rename_i notDropped
        refine settled_refuse _ (same ▸ after.store.dropCollection_undone database collection ?_)
        intro done
        obtain rfl : dropped = true := Except.ok.inj (outcome.symm.trans done)
        exact notDropped rfl
  · exact settled_refuse _ (same ▸ .refl _)

/-- A deletion that finds nothing to delete changes nothing. -/
theorem settled_delete (id : String) :
    ((service.delete database collection id).next fun deleted service =>
      if deleted then (.ok { status := 200 }, service)
      else service.refuse (.objectNotFound id collection)).Settled service := by
  refine settled_next (fun error failed => ?_) fun deleted outcome => ?_
  · exact service.store.delete_undone database collection fun done => nomatch failed.symm.trans done
  · split
    · exact settled_of_success (by decide : (200 : Nat) < 400)
    · rename_i notDeleted
      refine settled_refuse _ (service.store.delete_undone database collection fun done => ?_)
      obtain rfl : deleted = true := Except.ok.inj (outcome.symm.trans done)
      exact notDeleted rfl

/-- A replacement that has been written is answered with a success: the document that is
answered has an identifier. -/
theorem settled_replyReplace (id : String) (format : ResponseFormat) (body : Bytes) :
    (service.replyReplace database collection id format body).Settled service := by
  refine settled_whenRead fun value _ => settled_next (fun error failed => ?_) fun found outcome => ?_
  · exact service.store.replace_undone database collection fun document done =>
      nomatch failed.symm.trans done
  · cases found with
    | none =>
      exact settled_refuse _ (service.store.replace_undone database collection fun document done =>
        nomatch outcome.symm.trans done)
    | some document =>
      have identified := service.store.replace_found database collection outcome
      have success : ∃ value, replaced format document = .ok (.ofJson 200 value) := by
        cases format with
        | entireObject => exact ⟨_, rfl⟩
        | onlyId => exact ⟨_, by simp only [replaced, storedId, identified]; rfl⟩
      obtain ⟨value, success⟩ := success
      simp only [success]
      exact settled_of_success (by decide : (200 : Nat) < 400)

/-- A batch is inserted as a whole or not at all. -/
theorem settled_replyInsertMany (bodies : Except GatewayError (List Json)) :
    (service.replyInsertMany database collection bodies).Settled service := by
  refine settled_whenRead fun value _ => settled_next (fun error failed => ?_) fun ids _ => ?_
  · exact service.store.insertMany_refused database collection failed
  · exact settled_reply _

/-- Every task but the insertion of one document is answered with a success once it has
written. -/
theorem settled_perform {task : Task} (other : ∀ id format body, task ≠ .insert id format body) :
    (service.perform database collection task).Settled service := by
  cases task with
  | getAll => exact settled_replyAll service database collection
  | dropCollection => exact settled_replyDrop service database collection
  | get id =>
    refine settled_read (.refl _) fun found after same => ?_
    cases found with
    | none => exact settled_refuse _ (same ▸ .refl _)
    | some document => exact settled_reply _
  | delete id => exact settled_delete service database collection id
  | insert id format body => exact absurd rfl (other id format body)
  | replace id format body => exact settled_replyReplace service database collection id format body
  | find paging filter =>
    exact settled_whenRead fun selection _ => settled_read (.refl _) fun _ _ _ => settled_reply _
  | search parameters =>
    exact settled_whenRead fun selection _ => settled_read (.refl _) fun _ _ _ => settled_reply _
  | explain search => exact settled_reply _
  | count filter => exact settled_read (.refl _) fun _ _ _ => settled_reply _
  | distinct field filter => exact settled_read (.refl _) fun _ _ _ => settled_reply _
  | aggregate pipeline => exact settled_read (.refl _) fun _ _ _ => settled_reply _
  | insertMany body => exact settled_replyInsertMany service database collection _
  | insertCsv boundary body => exact settled_replyInsertMany service database collection _

/-! ## Insertions of one document -/

/-- The store accepts a document for insertion, but the place where it would be found
cannot stand in a header. -/
def Unplaceable (given : Option String) (body : Bytes) : Prop :=
  ∃ value document id, bodyJson body = .ok value ∧
    (service.store.insert database collection given value).1 = .ok document ∧
    Keyed.get? "_id" document = some (.string id) ∧
    Http.isHeaderText (documentLocation database collection id) = false

/-- The answer to a stored document is a success exactly if its place can stand in a
header. -/
theorem inserted_eq (format : ResponseFormat) {document : Document} {id : String}
    (identified : Keyed.get? "_id" document = some (.string id)) :
    inserted format database collection document =
      created database collection id (format.show "inserted" id document) := by
  simp only [inserted, storedId, identified]
  rfl

/-- A stored document is answered with its place. -/
theorem replyInsert_eq {given : Option String} (format : ResponseFormat) {body : Bytes}
    {value : Json} {document : Document} {id : String} (readBody : bodyJson body = .ok value)
    (stored : (service.store.insert database collection given value).1 = .ok document)
    (identified : Keyed.get? "_id" document = some (.string id)) :
    service.replyInsert database collection given format body =
      (created database collection id (format.show "inserted" id document),
        (service.insert database collection given value).2) := by
  have storedHere : (service.insert database collection given value).1 = .ok document := stored
  unfold replyInsert whenRead Outcome.next
  simp only [readBody]
  split
  · rename_i answered after outcome
    obtain rfl : answered = document := Except.ok.inj (by rw [← storedHere, outcome])
    rw [inserted_eq database collection format identified, outcome]
  · rename_i error after outcome
    rw [outcome] at storedHere
    cases storedHere

/-- A stored document whose place cannot stand in a header is answered as a failure. -/
theorem replyInsert_misplaced {given : Option String} (format : ResponseFormat) {body : Bytes}
    {value : Json} {document : Document} {id : String} (readBody : bodyJson body = .ok value)
    (stored : (service.store.insert database collection given value).1 = .ok document)
    (identified : Keyed.get? "_id" document = some (.string id))
    (misplaced : Http.isHeaderText (documentLocation database collection id) = false) :
    service.replyInsert database collection given format body =
      (.error (.form 500 "failed to parse header value"),
        (service.insert database collection given value).2) := by
  rw [service.replyInsert_eq database collection format readBody stored identified]
  simp [created, misplaced]

/-- An insertion writes although it is answered as an error exactly if the document is
stored at a place that cannot stand in a header. -/
theorem settled_replyInsert_iff (given : Option String) (format : ResponseFormat) (body : Bytes) :
    (service.replyInsert database collection given format body).Settled service ↔
      ¬ service.Unplaceable database collection given body := by
  constructor
  · rintro settled ⟨value, document, id, readBody, stored, identified, misplaced⟩
    have reply := service.replyInsert_misplaced database collection format readBody stored
      identified misplaced
    obtain ⟨space, key, -, absent, present⟩ := service.store.insert_stored database collection stored
    have unchanged := (settled (by rw [reply]; exact (by decide : 400 ≤ 500))).found space key
    rw [reply, absent] at unchanged
    exact present unchanged
  · intro placeable
    refine settled_whenRead fun value readBody =>
      settled_next (fun error failed => ?_) fun document stored => ?_
    · exact service.store.insert_refused database collection failed
    · obtain ⟨space, id, identified, -⟩ := service.store.insert_stored database collection stored
      have headerText : Http.isHeaderText (documentLocation database collection id) = true := by
        by_contra misplaced
        exact placeable ⟨value, document, id, readBody, stored, identified,
          Bool.eq_false_iff.mpr misplaced⟩
      rw [inserted_eq database collection format identified]
      simp only [created, headerText, if_true]
      exact settled_of_success (by decide : (201 : Nat) < 400)

end Service

namespace Gateway

variable (gateway : Gateway) (occasion : Occasion) (request : Http.Request)

/-- A request to a data route changes the service only by its task, whose reply is the
answer; without a task it changes nothing. -/
theorem answer_cases (underBase : (apiSegments? request.path).isSome) :
    (gateway.performed? occasion request = none ∧
        (gateway.answer occasion request).2.service = gateway.service) ∨
      ∃ endpoint task, gateway.performed? occasion request = some (endpoint, task) ∧
        let reply := gateway.service.perform endpoint.database endpoint.collection task
        (gateway.answer occasion request).1.status = reply.response.status ∧
          (gateway.answer occasion request).2.service = reply.2 := by
  obtain ⟨_, ⟨nothing, _, -, answered⟩ | ⟨endpoint, task, performed, answered⟩⟩ :=
    gateway.answer_uniform occasion request underBase
  · exact .inl ⟨nothing, congrArg (·.2.service) (answered gateway.service)⟩
  · have here := answered gateway.service
    exact .inr ⟨endpoint, task, performed, congrArg (·.1.status) here, congrArg (·.2.service) here⟩

/-- A request to a data route that is answered as an error leaves the documents of all
collections as they were, except exactly if it is let to insert one document that the
store accepts, at a place that cannot stand in a header. -/
theorem failed_request_keeps_documents_iff (underBase : (apiSegments? request.path).isSome) :
    (400 ≤ (gateway.answer occasion request).1.status →
        gateway.service.store.SameDocuments (gateway.answer occasion request).2.service.store) ↔
      ¬ ∃ endpoint given format body,
        gateway.performed? occasion request = some (endpoint, .insert given format body) ∧
          gateway.service.Unplaceable endpoint.database endpoint.collection given body := by
  rcases gateway.answer_cases occasion request underBase with
    ⟨nothing, unchanged⟩ | ⟨endpoint, task, performed, status, after⟩
  · rw [nothing, unchanged]
    simpa using fun _ => SameDocuments.refl gateway.service.store
  · rw [performed, status, after]
    change Reply.Settled gateway.service _ ↔ _
    by_cases insertion : ∃ given format body, task = .insert given format body
    · obtain ⟨given, format, body, rfl⟩ := insertion
      refine (gateway.service.settled_replyInsert_iff _ _ given format body).trans (not_congr ?_)
      constructor
      · exact fun unplaceable => ⟨endpoint, given, format, body, rfl, unplaceable⟩
      · rintro ⟨_, _, _, _, same, unplaceable⟩
        cases same
        exact unplaceable
    · refine iff_of_true ?_ ?_
      · exact gateway.service.settled_perform _ _ fun given format body same =>
          insertion ⟨given, format, body, same⟩
      · rintro ⟨_, given, format, body, same, -⟩
        exact insertion ⟨given, format, body, congrArg Prod.snd (Option.some.inj same)⟩

/-- The theorem at a request whose key is only let to read. -/
theorem forbidden_request_keeps_documents :
    let gateway := withOneScope "objgate.objects.*.*.read"
    let request := emptyInsertion "/api/1.0/db/c/a%01"
    (apiSegments? request.path).isSome ∧ (gateway.answer {} request).1.status = 403 ∧
      gateway.service.store.SameDocuments (gateway.answer {} request).2.service.store := by
  intro gateway request
  have underBase : (apiSegments? request.path).isSome := by decide
  have unperformed : gateway.performed? {} request = none := by decide
  have forbidden : (gateway.answer {} request).1.status = 403 := by decide
  refine ⟨underBase, forbidden, ?_⟩
  refine (failed_request_keeps_documents_iff gateway {} request underBase).mpr ?_ (by omega)
  rintro ⟨endpoint, given, format, body, performed, -⟩
  rw [unperformed] at performed
  cases performed

/-- A document whose identifier ends in a control character is stored, and the request
is answered as a failure of the gateway. -/
theorem failed_insertion_stores_document :
    let gateway := withOneScope "objgate.objects.*.*.insert"
    let request := emptyInsertion "/api/1.0/db/c/a%01"
    (apiSegments? request.path).isSome ∧ (gateway.answer {} request).1.status = 500 ∧
      ¬ gateway.service.store.SameDocuments (gateway.answer {} request).2.service.store := by
  intro gateway request
  refine ⟨by decide, by decide, fun same => ?_⟩
  have present : ((gateway.answer {} request).2.service.store.backend.get?
      "db/c" "a\x01").isSome := by decide
  have absent : gateway.service.store.backend.get? "db/c" "a\x01" = none := rfl
  rw [same.found, absent] at present
  cases present

end Gateway

end DocumentGateway

import DocumentGateway.Proofs.Gateway.Replies

/-!
# Confinement to the granted scopes

A caller is let to perform a task only on a collection on which its scopes grant the
permission for the task. So the answers to a caller depend only on the collections for
which it is granted something, and its requests change a collection only in the ways that
it is granted there.
-/
namespace DocumentGateway.Gateway

open DocumentStore (Changed SameCollection)

/-- The principal may act on the collection in this way. -/
def Grants (settings : GatewaySettings) (principal : Principal) (database collection : String)
    (permission : Permission) : Prop :=
  authorize settings principal database collection permission = .ok ()

instance (settings : GatewaySettings) (principal : Principal) (database collection : String)
    (permission : Permission) :
    Decidable (Grants settings principal database collection permission) :=
  inferInstanceAs (Decidable (authorize settings principal database collection permission = .ok ()))

/-- Two gateways with the same settings and the same counted requests whose services show
the same of every collection for which the principal is granted some permission. -/
structure AlikeFor (principal : Principal) (left right : Gateway) : Prop where
  settings : left.settings = right.settings
  limiter : left.limiter = right.limiter
  service : left.service.AlikeOn
    (fun database collection =>
      ∃ permission, Grants left.settings principal database collection permission)
    right.service

/-- What is written where a principal is granted nothing makes no difference to it. -/
theorem AlikeFor.of_hidden_change {gateway : Gateway} {principal : Principal}
    {database collection : String} {permission : Permission} {store : DocumentStore}
    (hidden : ∀ permission, ¬ Grants gateway.settings principal database collection permission)
    (changed : Changed gateway.service.store database collection permission store)
    (ids : store.ids = gateway.service.store.ids) :
    AlikeFor principal gateway { gateway with service.store := store } := by
  refine ⟨rfl, rfl, rfl, changed.compression_eq.symm, changed.immutable_eq.symm, ids.symm, ?_⟩
  rintro otherDatabase otherCollection ⟨granted, grants⟩
  refine changed.sameCollection fun same => ?_
  obtain ⟨rfl, rfl⟩ := Prod.mk.inj same
  exact absurd grants (hidden granted)

variable {gateway : Gateway} {request : Http.Request} {key : String} {principal : Principal}

/-! ## What a request depends on -/

/-- Gateways that are alike for the principal of a request answer it alike and stay alike. -/
theorem AlikeFor.answer (occasion : Occasion) (underBase : (apiSegments? request.path).isSome)
    (identified : identify gateway.settings request = .ok (key, principal)) {other : Gateway}
    (alike : AlikeFor principal gateway other) :
    (gateway.answer occasion request).1 = (other.answer occasion request).1 ∧
      AlikeFor principal (gateway.answer occasion request).2 (other.answer occasion request).2 := by
  obtain ⟨settings, limiter, service⟩ := gateway
  obtain ⟨_, _, otherService⟩ := other
  obtain ⟨rfl, rfl, alikeServices⟩ := alike
  obtain ⟨limiterAfter, ⟨-, response, -, answered⟩ | ⟨endpoint, task, performed, answered⟩⟩ :=
    answer_uniform ⟨settings, limiter, service⟩ occasion request underBase
  · rw [answered service, answered otherService]
    exact ⟨rfl, rfl, rfl, alikeServices⟩
  · have granted := authorize_of_performed _ occasion request identified performed
    obtain ⟨sameReply, alikeAfter⟩ :=
      Service.alike_perform ⟨task.permission, granted⟩ alikeServices task
    rw [answered service, answered otherService]
    refine ⟨?_, rfl, rfl, alikeAfter⟩
    simp only [Reply.response, sameReply]

/-- The responses to a series of requests, each on its occasion, and the gateway after
them. -/
def answerAll (gateway : Gateway) : List (Occasion × Http.Request) → List Http.Response × Gateway
  | [] => ([], gateway)
  | (occasion, request) :: rest =>
    let (response, between) := gateway.answer occasion request
    let (responses, after) := between.answerAll rest
    (response :: responses, after)

/-- Whatever the principal has asked for before, gateways that were alike for it at first
are told apart by none of its requests. The induction is on the requests, from the first
one on. -/
theorem AlikeFor.answerAll {requests : List (Occasion × Http.Request)}
    (ofPrincipal : ∀ asked ∈ requests, (apiSegments? asked.2.path).isSome ∧
      ∃ key, identify gateway.settings asked.2 = .ok (key, principal))
    {other : Gateway} (alike : AlikeFor principal gateway other) :
    (gateway.answerAll requests).1 = (other.answerAll requests).1 ∧
      AlikeFor principal (gateway.answerAll requests).2 (other.answerAll requests).2 := by
  induction requests generalizing gateway other with
  | nil => exact ⟨rfl, alike⟩
  | cons asked rest inductionHypothesis =>
    obtain ⟨occasion, request⟩ := asked
    obtain ⟨⟨underBase, key, identified⟩, later⟩ := List.forall_mem_cons.mp ofPrincipal
    obtain ⟨sameResponse, alikeBetween⟩ := alike.answer occasion underBase identified
    rw [← gateway.settings_answer occasion request] at later
    obtain ⟨sameResponses, alikeAfter⟩ := inductionHypothesis later alikeBetween
    exact ⟨congrArg₂ List.cons sameResponse sameResponses, alikeAfter⟩

/-! ## What a request changes -/

/-- What is shown of a collection stays the same through a request, or the principal of the
request is granted the permission under which it is changed. -/
theorem same_or_granted_change (occasion : Occasion)
    (underBase : (apiSegments? request.path).isSome)
    (identified : identify gateway.settings request = .ok (key, principal))
    (database collection : String) :
    SameCollection gateway.service.store (gateway.answer occasion request).2.service.store
        database collection ∨
      ∃ permission, Grants gateway.settings principal database collection permission ∧
        Changed gateway.service.store database collection permission
          (gateway.answer occasion request).2.service.store := by
  obtain ⟨_, ⟨-, _, -, answered⟩ | ⟨endpoint, task, performed, answered⟩⟩ :=
    gateway.answer_uniform occasion request underBase
  · left
    rw [show gateway.answer occasion request = _ from answered gateway.service]
    exact .refl _ database collection
  · have granted := authorize_of_performed _ occasion request identified performed
    have changed := gateway.service.perform_changed endpoint.database endpoint.collection task
    rw [show gateway.answer occasion request = _ from answered gateway.service]
    by_cases same : (database, collection) = (endpoint.database, endpoint.collection)
    · obtain ⟨rfl, rfl⟩ := Prod.mk.inj same
      exact .inr ⟨task.permission, granted, changed⟩
    · exact .inl (changed.sameCollection fun reached => absurd reached same)

/-- A caller is confined to its scopes. The answers to it depend only on the collections for
which it is granted something; its requests change no collection on which it may not
write; and where it may write, documents change only under the permission to update, appear
only under the one to insert and disappear only under the one to delete. -/
theorem request_confined_to_scopes (occasion : Occasion)
    (underBase : (apiSegments? request.path).isSome)
    (identified : identify gateway.settings request = .ok (key, principal)) :
    let after := (gateway.answer occasion request).2
    let lacks := fun database collection permission =>
      ¬ Grants gateway.settings principal database collection permission
    (∀ other, AlikeFor principal gateway other →
        (gateway.answer occasion request).1 = (other.answer occasion request).1 ∧
          AlikeFor principal after (other.answer occasion request).2) ∧
      ∀ database collection,
        (lacks database collection .insert → lacks database collection .update →
            lacks database collection .delete →
          SameCollection gateway.service.store after.service.store database collection) ∧
        ∀ id,
          let before := gateway.service.store.get database collection id
          let now := after.service.store.get database collection id
          (lacks database collection .update → lacks database collection .delete →
              before ≠ .ok none → now = before) ∧
            (lacks database collection .insert → before = .ok none → now = .ok none) ∧
            (lacks database collection .delete → before ≠ .ok none → now ≠ .ok none) := by
  intro after lacks
  refine ⟨fun other alike => alike.answer occasion underBase identified, ?_⟩
  intro database collection
  rcases same_or_granted_change occasion underBase identified database collection with
    same | ⟨permission, granted, changed⟩
  · refine ⟨fun _ _ _ => same, fun id => ?_⟩
    have document : after.service.store.get database collection id =
      gateway.service.store.get database collection id := (same.document id).symm
    rw [document]
    exact ⟨fun _ _ _ => rfl, fun _ absent => absent, fun _ present => present⟩
  · have differs : ∀ {asked}, lacks database collection asked → permission ≠ asked :=
      fun lacking same => lacking (same ▸ granted)
    refine ⟨fun noInsert noUpdate noDelete => ?_, fun id => ?_⟩
    · cases permission with
      | read => exact changed.sameCollection_of_read rfl database collection
      | insert => exact absurd granted noInsert
      | update => exact absurd granted noUpdate
      | delete => exact absurd granted noDelete
    · obtain ⟨untouched, notBrought, notTaken⟩ := changed.document_kept database collection id
      exact ⟨fun noUpdate noDelete => untouched (differs noUpdate) (differs noDelete),
        fun noInsert => notBrought (differs noInsert),
        fun noDelete => notTaken (differs noDelete)⟩

/-- The theorem at the insertion of a document by a caller that may do nothing else, while
another collection holds a document or holds none: the document is inserted either way. -/
theorem insertion_ignores_hidden_collection :
    let gateway := withOneScope "objgate.objects.d.c.insert"
    let table := SortedMap.empty.insert "d/s" (SortedMap.empty.insert "x" (Stored.plain "{}"))
    let holding : Gateway := { gateway with service.store.backend := .memory ⟨table⟩ }
    let request := emptyInsertion "/api/1.0/d/c/a"
    (apiSegments? request.path).isSome ∧ (gateway.answer {} request).1.status = 201 ∧
      (gateway.answer {} request).1 = (holding.answer {} request).1 ∧
      SameCollection holding.service.store (holding.answer {} request).2.service.store "d" "s" := by
  intro gateway table holding request
  have underBase : (apiSegments? request.path).isSome := by decide
  let caller : Principal := ⟨"k…", ["objgate.objects.d.c.insert"]⟩
  have identified : identify gateway.settings request = .ok ("k", caller) := by rfl
  have hidden : ∀ permission, ¬ Grants gateway.settings caller "d" "s" permission := by
    intro permission
    cases permission <;> decide
  have stored : gateway.service.store.backend.insertNew "d/s" [("x", .plain "{}")] =
      .ok holding.service.store.backend := by rfl
  have changed : Changed gateway.service.store "d" "s" .insert holding.service.store :=
    .inserted 0 rfl (by simp) (by simp) stored
  obtain ⟨answers, -⟩ := request_confined_to_scopes {} underBase identified
  obtain ⟨-, changes⟩ :=
    @request_confined_to_scopes holding request "k" caller {} underBase identified
  exact ⟨underBase, by decide, (answers holding (AlikeFor.of_hidden_change hidden changed rfl)).1,
    (changes "d" "s").1 (hidden _) (hidden _) (hidden _)⟩

end DocumentGateway.Gateway

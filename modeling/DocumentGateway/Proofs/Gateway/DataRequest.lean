import DocumentGateway.Gateway.Answer
import DocumentGateway.Proofs.Except

/-!
# What a data request performs

A request under the base of the data routes is taken apart by the settings of the gateway
and the requests counted so far, before the service has any part in it. Either it is let
to perform one task, whose reply is the answer, or it is answered without the service.
The scope for the task is asked for on the very collection on which it is performed.
-/
namespace DocumentGateway

/-- The response of a reply. -/
def Reply.response (reply : Reply) : Http.Response :=
  match reply.1 with
  | .ok response => response
  | .error refusal => refusal.response

/-- The permission that a task needs. -/
def Task.permission : Task → Permission
  | .getAll => .read
  | .dropCollection => .delete
  | .get _ => .read
  | .delete _ => .delete
  | .insert _ _ _ => .insert
  | .replace _ _ _ => .update
  | .find _ _ => .read
  | .search _ => .read
  | .explain _ => .read
  | .count _ => .read
  | .distinct _ _ => .read
  | .aggregate _ => .read
  | .insertMany _ => .insert
  | .insertCsv _ _ => .insert

/-- The task of an action needs the permission that the action needs. -/
theorem Action.permission_task {action : Action} {request : Http.Request} {limit : Nat}
    {task : Task} (made : action.task request limit = .ok task) :
    task.permission = action.permission := by
  cases action with
  | getAll | dropCollection | get | delete =>
    cases made
    rfl
  | insertNew | insert | replace | find =>
    simp only [Action.task, bind_eq_ok_iff] at made
    obtain ⟨_, -, _, -, made⟩ := made
    cases made
    rfl
  | search | explain | count | distinct | aggregate | insertMany =>
    obtain ⟨_, -, rfl⟩ := map_eq_ok_iff.mp made
    rfl
  | insertCsv =>
    simp only [Action.task] at made
    split at made
    · cases made
      rfl
    · cases made

/-- Every route lies under the base of the data routes. -/
theorem Route.underBase {path : List Char} {route : Route} (routed : ofPath? path = some route) :
    (apiSegments? path).isSome := by
  obtain ⟨segments, found, -⟩ := Option.bind_eq_some_iff.mp routed
  simp [found]

/-! ## Refusals -/

/-- Every error of the gateway has the status of an error. -/
theorem GatewayError.isFailure (error : GatewayError) : 400 ≤ error.status := by
  cases error with
  | store cause =>
    simp only [status]
    split <;> omega
  | _ => simp [status]

/-- The statuses of requests that cannot be taken apart, lack a scope, or are too long. -/
def properFailures : List Nat :=
  [400, 403, 413]

/-- A proper failure has the status of an error. -/
theorem isFailure_of_proper {status : Nat} (proper : status ∈ properFailures) : 400 ≤ status := by
  simp only [properFailures, List.mem_cons, List.not_mem_nil, or_false] at proper
  omega

/-- A result that is a value or is refused with the status of a proper failure. -/
def FailsProperly {α : Type} (result : Except Refusal α) : Prop :=
  ∀ refusal, result = .error refusal → refusal.response.status ∈ properFailures

namespace FailsProperly

variable {α β : Type}

/-- A value is no failure at all. -/
theorem ok (value : α) : FailsProperly (.ok value) :=
  fun _ refused => nomatch refused

/-- A refusal with one of the proper statuses fails properly, in whatever words. -/
theorem form {status : Nat} (failure : status ∈ properFailures) (words : String) :
    FailsProperly (.error (.form status words) : Except Refusal α) := by
  rintro _ ⟨⟩
  exact failure

/-- A missing scope is a proper failure, and so is the name of a database with a dot. -/
theorem authorize (settings : GatewaySettings) (principal : Principal)
    (database collection : String) (permission : Permission) :
    FailsProperly ((Gateway.authorize settings principal database collection permission).mapError
      .error) := by
  unfold Gateway.authorize
  split
  · rintro _ ⟨⟩
    exact List.mem_cons_self
  · dsimp only
    split
    · exact ok ()
    · rintro _ ⟨⟩
      exact List.mem_cons_of_mem 400 List.mem_cons_self

/-- Two steps in a row fail properly if each of them does. -/
theorem bind {result : Except Refusal α} {next : α → Except Refusal β}
    (proper : FailsProperly result) (properNext : ∀ value, FailsProperly (next value)) :
    FailsProperly (result >>= next) := by
  cases result with
  | ok value => exact properNext value
  | error refusal => exact fun _ refused => proper _ (by cases refused; rfl)

/-- To map the value changes nothing about the failures. -/
theorem map {result : Except Refusal α} (proper : FailsProperly result) (f : α → β) :
    FailsProperly (result.map f) := by
  cases result with
  | ok value => exact ok (f value)
  | error refusal => exact fun _ refused => proper _ (by cases refused; rfl)

variable (request : Http.Request) (limit : Nat)

/-- Parameters that cannot be read are refused properly. -/
theorem parameters (reader : Config.Setting → Option α) :
    FailsProperly (request.parameters reader) := by
  unfold Http.Request.parameters
  split
  · exact ok _
  · exact form (by decide) _

/-- A body that is too long is refused properly. -/
theorem bodyBytes : FailsProperly (request.bodyBytes limit) := by
  unfold Http.Request.bodyBytes
  split
  · exact ok _
  · exact form (by decide) _

/-- A body that is no text is refused properly. -/
theorem bodyText : FailsProperly (request.bodyText limit) := by
  refine bind (bodyBytes request limit) fun bytes => ?_
  split
  · exact ok _
  · exact form (by decide) _

/-- What an action cannot take from a request is a proper failure. -/
theorem task (action : Action) : FailsProperly (action.task request limit) := by
  cases action with
  | getAll | dropCollection | get | delete => exact ok _
  | insertNew | insert | replace =>
    exact bind (parameters request _) fun _ => bind (bodyBytes request limit) fun _ => ok _
  | find => exact bind (parameters request _) fun _ => bind (bodyText request limit) fun _ => ok _
  | search | explain => exact map (parameters request _) _
  | count | distinct | aggregate => exact map (bodyText request limit) _
  | insertMany => exact map (bodyBytes request limit) _
  | insertCsv =>
    simp only [Action.task]
    split
    · exact ok _
    · exact form (by decide) _

end FailsProperly

namespace Gateway

variable (gateway : Gateway) (occasion : Occasion) (request : Http.Request)

/-- The task that a request to a data route is let to perform, with its endpoint: the
request asks for it in the right form, with a known key that has not used up its window
and is granted the scope. -/
def performed? : Option (Endpoint × Task) :=
  if request.method = "OPTIONS" ∨ request.announcesTooMuch gateway.settings.maxBodySize then none
  else do
    let route ← Route.ofPath? request.path
    let (key, principal) ← (identify gateway.settings request).toOption
    let endpoint ← route.endpoint? (handledMethod request.method)
    if (gateway.limiter.allow gateway.settings.rateLimit key occasion.now).1 then
      (prepare gateway.settings principal endpoint request).toOption
    else none

/-- No path under the base of the data routes is that of a public page. -/
theorem publicPage_eq_none {path : List Char} (underBase : (apiSegments? path).isSome) :
    PublicPage.ofPath? (String.ofList path) = none := by
  have different : ∀ page : String, apiSegments? page.toList = none → String.ofList path ≠ page := by
    intro page outside same
    rw [← same, String.toList_ofList] at outside
    rw [outside] at underBase
    cases underBase
  unfold PublicPage.ofPath?
  split
  · rename_i same
    exact absurd same (different "/" (by decide))
  · rename_i same
    exact absurd same (different "/health/live" (by decide))
  · rename_i same
    exact absurd same (different "/health/ready" (by decide))
  · rename_i same
    exact absurd same (different "/metrics" (by decide))
  · rfl

/-- Serving a request that was taken apart is replying to its task. -/
theorem serve_prepared {settings : GatewaySettings} (service : Service) {principal : Principal}
    {asked endpoint : Endpoint} {task : Task}
    (prepared : prepare settings principal asked request = .ok (endpoint, task)) :
    let reply := service.perform endpoint.database endpoint.collection task
    serve settings service principal asked request = (reply.response, reply.2) := by
  simp only [serve, prepared, Reply.response]
  cases service.perform endpoint.database endpoint.collection task with
  | mk outcome after => cases outcome <;> rfl

/-- A request is let to perform a task exactly if all names in its path are text, it brings
what the action needs, and the principal may do the action on the collection. -/
theorem prepare_ok_iff {settings : GatewaySettings} {principal : Principal}
    {asked endpoint : Endpoint} {task : Task} :
    prepare settings principal asked request = .ok (endpoint, task) ↔
      asked.decode? = some endpoint ∧
        endpoint.action.task request settings.maxBodySize = .ok task ∧
        authorize settings principal endpoint.database endpoint.collection
          endpoint.action.permission = .ok () := by
  unfold prepare
  cases asked.decode? with
  | none => simp [bind, Except.bind]
  | some decoded =>
    simp only [bind_eq_ok_iff, mapError_eq_ok_iff, Option.some.injEq]
    constructor
    · rintro ⟨_, ⟨⟩, made, taskMade, _, authorized, ⟨⟩⟩
      exact ⟨rfl, taskMade, authorized⟩
    · rintro ⟨rfl, taskMade, authorized⟩
      exact ⟨decoded, rfl, task, taskMade, (), authorized, rfl⟩

/-- A request that is not let to perform a task is answered as an error. -/
theorem prepare_failsProperly (settings : GatewaySettings) (principal : Principal)
    (asked : Endpoint) : FailsProperly (prepare settings principal asked request) := by
  unfold prepare
  cases asked.decode? with
  | none => exact .form (by decide) _
  | some endpoint =>
    refine .bind (.ok endpoint) fun endpoint => .bind (.task request _ endpoint.action) fun task => ?_
    exact .bind (.authorize _ _ _ _ _) fun _ => .ok _

/-- A request performs a task exactly if nothing stands in its way: it is no question about
a path, its body is not announced as too long, its route takes the method, its key is known
and within its window, and it is let to perform the task. -/
theorem performed?_eq_some_iff {endpoint : Endpoint} {task : Task} :
    gateway.performed? occasion request = some (endpoint, task) ↔
      request.method ≠ "OPTIONS" ∧
        request.announcesTooMuch gateway.settings.maxBodySize = false ∧
        ∃ route key principal asked, Route.ofPath? request.path = some route ∧
          identify gateway.settings request = .ok (key, principal) ∧
          route.endpoint? (handledMethod request.method) = some asked ∧
          (gateway.limiter.allow gateway.settings.rateLimit key occasion.now).1 = true ∧
          prepare gateway.settings principal asked request = .ok (endpoint, task) := by
  unfold performed?
  split
  · rename_i refused
    refine iff_of_false (by simp) ?_
    rintro ⟨notOptions, within, -⟩
    rcases refused with options | tooMuch
    · exact notOptions options
    · rw [within] at tooMuch
      cases tooMuch
  · rename_i accepted
    simp only [not_or, Bool.not_eq_true] at accepted
    simp only [Option.bind_eq_bind, Option.bind_eq_some_iff, toOption_eq_some_iff,
      Option.ite_none_right_eq_some, Prod.exists]
    constructor
    · rintro ⟨route, routed, key, principal, identified, asked, taken, allowed, prepared⟩
      exact ⟨accepted.1, accepted.2, route, key, principal, asked, routed, identified, taken,
        allowed, prepared⟩
    · rintro ⟨-, -, route, key, principal, asked, routed, identified, taken, allowed, prepared⟩
      exact ⟨route, routed, key, principal, identified, asked, taken, allowed, prepared⟩

/-- Every gateway with the same settings and counts deals with a request to a data route in
the same way, whatever its service: it answers without the service, and then as an error
unless the request is a question about the path, or with the reply of the service to the
same task. -/
theorem answer_uniform (underBase : (apiSegments? request.path).isSome) :
    ∃ limiter,
      (gateway.performed? occasion request = none ∧
        ∃ response, (request.method = "OPTIONS" ∨ 400 ≤ response.status) ∧
          ∀ service, ({ gateway with service } : Gateway).answer occasion request =
            (complete gateway.settings occasion request response,
              { gateway with limiter, service })) ∨
      ∃ endpoint task, gateway.performed? occasion request = some (endpoint, task) ∧
        ∀ service,
          let reply := service.perform endpoint.database endpoint.collection task
          ({ gateway with service } : Gateway).answer occasion request =
            (complete gateway.settings occasion request reply.response,
              { gateway with limiter, service := reply.2 }) := by
  unfold performed? answer answerMethod
  by_cases options : request.method = "OPTIONS"
  · exact ⟨gateway.limiter, .inl
      ⟨by simp [options], { status := 200 }, .inl options, by simp [options]⟩⟩
  by_cases tooMuch : request.announcesTooMuch gateway.settings.maxBodySize = true
  · refine ⟨gateway.limiter, .inl
      ⟨by simp [tooMuch], .ofWords 413 "length limit exceeded", .inr (by decide), ?_⟩⟩
    simp [options, tooMuch]
  simp only [options, tooMuch, or_self, if_false, Bool.false_eq_true, false_or, answerPath,
    publicPage_eq_none underBase]
  cases routed : Route.ofPath? request.path with
  | none =>
    exact ⟨gateway.limiter, .inl
      ⟨rfl, refused .notFound, GatewayError.notFound.isFailure, fun service => rfl⟩⟩
  | some route =>
    simp only [answerRoute]
    cases identified : identify gateway.settings request with
    | error error =>
      exact ⟨gateway.limiter, .inl ⟨rfl, refused error, error.isFailure, fun service => rfl⟩⟩
    | ok caller =>
      obtain ⟨key, principal⟩ := caller
      cases allowed : gateway.limiter.allow gateway.settings.rateLimit key occasion.now with
      | mk within limiter =>
        refine ⟨limiter, ?_⟩
        cases within with
        | false =>
          refine .inl ⟨by simp [Except.toOption, allowed], refused .rateLimitExceeded,
            GatewayError.rateLimitExceeded.isFailure, ?_⟩
          simp [allowed]
        | true =>
          cases taken : route.endpoint? (handledMethod request.method) with
          | none =>
            refine .inl ⟨by simp [Except.toOption, taken], wrongMethod, by decide, ?_⟩
            simp [allowed]
          | some asked =>
            cases prepared : prepare gateway.settings principal asked request with
            | error refusal =>
              refine .inl ⟨by simp [taken, Except.toOption, allowed, prepared], refusal.response,
                isFailure_of_proper (prepare_failsProperly request _ _ _ refusal prepared), ?_⟩
              simp [allowed, serve, prepared]
            | ok item =>
              obtain ⟨endpoint, task⟩ := item
              refine .inr ⟨endpoint, task, ?_, fun service => ?_⟩
              · simp [taken, Except.toOption, allowed, prepared]
              · simp [allowed, serve_prepared request service prepared]

/-- A request that performs a task is answered with the reply to the task. -/
theorem answer_of_performed {endpoint : Endpoint} {task : Task}
    (performed : gateway.performed? occasion request = some (endpoint, task)) :
    let reply := gateway.service.perform endpoint.database endpoint.collection task
    ∃ limiter, gateway.answer occasion request =
      (complete gateway.settings occasion request reply.response,
        { gateway with limiter, service := reply.2 }) := by
  obtain ⟨-, -, route, _, _, _, routed, -⟩ :=
    (gateway.performed?_eq_some_iff occasion request).mp performed
  obtain ⟨limiter, ⟨nothing, -⟩ | ⟨_, _, performedHere, answered⟩⟩ :=
    gateway.answer_uniform occasion request (Route.underBase routed)
  · rw [performed] at nothing
    cases nothing
  · obtain ⟨rfl, rfl⟩ := Prod.mk.inj (Option.some.inj (performed.symm.trans performedHere))
    exact ⟨limiter, answered gateway.service⟩

/-- A request to a data route that is answered as a success performs a task, unless it is a
question about the path. -/
theorem performed_of_success (underBase : (apiSegments? request.path).isSome)
    (notOptions : request.method ≠ "OPTIONS")
    (success : (gateway.answer occasion request).1.status < 400) :
    ∃ endpoint task, gateway.performed? occasion request = some (endpoint, task) := by
  obtain ⟨_, ⟨-, response, options | failure, answered⟩ | ⟨endpoint, task, performed, -⟩⟩ :=
    gateway.answer_uniform occasion request underBase
  · exact absurd options notOptions
  · have same : (gateway.answer occasion request).1.status = response.status :=
      congrArg (·.1.status) (answered gateway.service)
    exact absurd (same ▸ success) (Nat.not_lt.mpr failure)
  · exact ⟨endpoint, task, performed⟩

/-- No request changes the settings. -/
theorem settings_answer : (gateway.answer occasion request).2.settings = gateway.settings := by
  have page : ∀ shown, (gateway.showPage occasion shown).2.settings = gateway.settings := by
    intro shown
    cases shown <;> rfl
  have data : ∀ route, (gateway.answerRoute occasion route request).2.settings =
      gateway.settings := by
    intro route
    unfold answerRoute
    split
    · rfl
    · dsimp only
      split
      · split <;> rfl
      · rfl
  change (gateway.answerMethod occasion request).2.settings = gateway.settings
  unfold answerMethod answerPath
  split
  · rfl
  · split
    · rfl
    · split
      · split
        · exact page _
        · rfl
      · split
        · exact data _
        · rfl

/-- A performed task is allowed to the principal of the request. -/
theorem authorize_of_performed {key : String} {principal : Principal} {endpoint : Endpoint}
    {task : Task} (identified : identify gateway.settings request = .ok (key, principal))
    (performed : gateway.performed? occasion request = some (endpoint, task)) :
    authorize gateway.settings principal endpoint.database endpoint.collection
      task.permission = .ok () := by
  obtain ⟨-, -, route, _, _, asked, -, identifiedHere, -, -, prepared⟩ :=
    (gateway.performed?_eq_some_iff occasion request).mp performed
  obtain ⟨rfl, rfl⟩ := Prod.mk.inj (Except.ok.inj (identified.symm.trans identifiedHere))
  obtain ⟨-, made, authorized⟩ := (prepare_ok_iff request).mp prepared
  rw [Action.permission_task made]
  exact authorized

/-! ## A gateway with one scope -/

/-- A gateway over an empty store in memory, with one key that is granted one scope. -/
def withOneScope (scope : String) : Gateway where
  settings := { apiKeys := SortedMap.empty.insert "k" scope }
  limiter := .empty
  service :=
    { store := ⟨.memory .empty, { codec := .none }, .empty, ⟨0, fun _ => "spare"⟩⟩
      compiler := {}
      health := {}
      probes := 0
      records := [] }

/-- A request with the key `k` to insert an empty document. -/
def emptyInsertion (target : String) : Http.Request :=
  ⟨"POST", target, [("x-api-key", [107])], [123, 125]⟩

end Gateway

end DocumentGateway

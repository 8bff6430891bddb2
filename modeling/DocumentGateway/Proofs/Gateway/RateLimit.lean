import DocumentGateway.Proofs.Access.RateLimit
import DocumentGateway.Proofs.Gateway.Confinement
import DocumentGateway.Proofs.Gateway.ReplyStatus

/-!
# Who is refused for a key or for too many requests

A request that announces a body over the limit is refused before anything else is looked at.
Of the other requests to data routes, those without a configured key are refused for it and
count for nobody. The others count for the key they present, and for no other, whatever
becomes of them, and they are refused once as many as the limit have come before them.
-/
namespace DocumentGateway.Gateway

open RateLimiter (span)

/-- The configured key that a request presents. -/
def configuredKey? (settings : GatewaySettings) (request : Http.Request) : Option String :=
  (presentedKey? request).filter settings.apiKeys.contains

/-- The key for which a request counts: the configured key that it presents to a data route,
unless it is a question about the path or announces a body over the limit. -/
def countedKey? (settings : GatewaySettings) (request : Http.Request) : Option String :=
  if request.method = "OPTIONS" ∨ request.announcesTooMuch settings.maxBodySize ∨
      Route.ofPath? request.path = none then none
  else configuredKey? settings request

/-- How many requests count for a key. -/
def timesCounted (settings : GatewaySettings) (requests : List (Occasion × Http.Request))
    (key : String) : Nat :=
  requests.countP fun asked => countedKey? settings asked.2 = some key

/-- A request to a data route, with a method that the route takes. -/
def IsDataRequest (request : Http.Request) : Prop :=
  ∃ route, Route.ofPath? request.path = some route ∧
    (route.endpoint? (handledMethod request.method)).isSome

variable {gateway : Gateway} {settings : GatewaySettings} {request : Http.Request}

/-! ## Callers -/

/-- A caller is identified by a configured key, and whoever presents none is told that a key
is missing. -/
theorem identify_cases (settings : GatewaySettings) (request : Http.Request) :
    (∃ key principal, configuredKey? settings request = some key ∧
        identify settings request = .ok (key, principal)) ∨
      ∃ error, configuredKey? settings request = none ∧
        identify settings request = .error error ∧ error.status = 401 := by
  unfold configuredKey? identify
  cases presentedKey? request with
  | none => exact .inr ⟨keyRequired, rfl, rfl, rfl⟩
  | some key =>
    cases known : settings.apiKeys.get? key with
    | none => exact .inr ⟨invalidKey, by simp [SortedMap.contains, known],
        by simp [principalFor?, GatewaySettings.scopesFor?, known], rfl⟩
    | some scopes => exact .inl ⟨key, ⟨keyId key, GatewaySettings.scopesOfText scopes⟩,
        by simp [SortedMap.contains, known],
        by simp [principalFor?, GatewaySettings.scopesFor?, known]⟩

/-- A method that a route takes is no question about its path. -/
theorem IsDataRequest.notOptions (asked : IsDataRequest request) : request.method ≠ "OPTIONS" := by
  rintro options
  obtain ⟨route, -, taken⟩ := asked
  rw [options, show handledMethod "OPTIONS" = "OPTIONS" from rfl] at taken
  cases route <;>
    simp [Route.endpoint?, Route.collectionAction?, Route.objectAction?] at taken

/-- A data request that announces no over-long body counts for the configured key that it
presents. -/
theorem IsDataRequest.countedKey? (asked : IsDataRequest request)
    (within : request.announcesTooMuch settings.maxBodySize = false) :
    countedKey? settings request = configuredKey? settings request := by
  obtain ⟨route, routed, -⟩ := id asked
  simp [Gateway.countedKey?, asked.notOptions, within, routed]

/-! ## One request -/

/-- A request counts for one key or for none. -/
theorem limiter_answer (gateway : Gateway) (occasion : Occasion) (request : Http.Request) :
    (gateway.answer occasion request).2.limiter =
      match countedKey? gateway.settings request with
      | some key => (gateway.limiter.allow gateway.settings.rateLimit key occasion.now).2
      | none => gateway.limiter := by
  change (gateway.answerMethod occasion request).2.limiter = _
  by_cases options : request.method = "OPTIONS"
  · simp [answerMethod, countedKey?, options]
  by_cases tooMuch : request.announcesTooMuch gateway.settings.maxBodySize = true
  · simp [answerMethod, countedKey?, options, tooMuch]
  cases routed : Route.ofPath? request.path with
  | none =>
    have page : ∀ shown, (gateway.showPage occasion shown).2.limiter = gateway.limiter := by
      intro shown
      cases shown <;> rfl
    simp only [answerMethod, answerPath, countedKey?, options, tooMuch, routed, if_false, or_true,
      if_true, Bool.false_eq_true]
    split
    · split
      · exact page _
      · rfl
    · rfl
  | some route =>
    have noPage := publicPage_eq_none (Route.underBase routed)
    simp only [answerMethod, answerPath, countedKey?, options, tooMuch, routed, noPage, if_false,
      Bool.false_eq_true, or_self, reduceCtorEq, answerRoute]
    rcases identify_cases gateway.settings request with
      ⟨key, principal, configured, identified⟩ | ⟨error, unknown, identified, -⟩
    · simp only [configured, identified]
      split
      · split <;> rfl
      · rfl
    · simp only [unknown, identified]

/-- What becomes of a data request. -/
inductive Treated (gateway : Gateway) (occasion : Occasion) (request : Http.Request) : Prop where
  | overLong (announced : request.announcesTooMuch gateway.settings.maxBodySize = true)
      (status : (gateway.answer occasion request).1.status = 413)
      (same : (gateway.answer occasion request).2 = gateway)
      (untouched : gateway.performed? occasion request = none)
  | unknown (announced : request.announcesTooMuch gateway.settings.maxBodySize = false)
      (configured : configuredKey? gateway.settings request = none)
      (status : (gateway.answer occasion request).1.status = 401)
      (same : (gateway.answer occasion request).2 = gateway)
      (untouched : gateway.performed? occasion request = none)
  | limited (key : String)
      (announced : request.announcesTooMuch gateway.settings.maxBodySize = false)
      (configured : configuredKey? gateway.settings request = some key)
      (refused : (gateway.limiter.allow gateway.settings.rateLimit key occasion.now).1 = false)
      (status : (gateway.answer occasion request).1.status = 429)
      (same : (gateway.answer occasion request).2.service = gateway.service)
      (untouched : gateway.performed? occasion request = none)
  | served (key : String)
      (announced : request.announcesTooMuch gateway.settings.maxBodySize = false)
      (configured : configuredKey? gateway.settings request = some key)
      (allowed : (gateway.limiter.allow gateway.settings.rateLimit key occasion.now).1 = true)
      (status : (gateway.answer occasion request).1.status ∈ properFailures ++ replyStatuses)

/-- Every data request is refused for its length, for its key or for the number of requests,
in this order, or it is served. -/
theorem IsDataRequest.treated (asked : IsDataRequest request) (gateway : Gateway)
    (occasion : Occasion) : Treated gateway occasion request := by
  have notOptions := asked.notOptions
  obtain ⟨route, routed, taken⟩ := asked
  obtain ⟨endpoint, taken⟩ := Option.isSome_iff_exists.mp taken
  have noPage := publicPage_eq_none (Route.underBase routed)
  cases announced : request.announcesTooMuch gateway.settings.maxBodySize with
  | true =>
    refine .overLong announced ?_ ?_ (by simp [performed?, announced]) <;>
    simp [answer, answerMethod, notOptions, announced, complete, Http.Response.ofWords]
  | false =>
    have route : gateway.answer occasion request =
        (complete (gateway.answerRoute occasion route request).2.settings occasion request
          (gateway.answerRoute occasion route request).1,
          (gateway.answerRoute occasion route request).2) := by
      simp [answer, answerMethod, answerPath, notOptions, announced, noPage, routed]
    rcases identify_cases gateway.settings request with
      ⟨key, principal, configured, identified⟩ | ⟨error, unknown, identified, status⟩
    · cases allowed : (gateway.limiter.allow gateway.settings.rateLimit key occasion.now).1 with
      | true =>
        refine .served key announced configured allowed ?_
        rw [route]
        simp only [answerRoute, identified, allowed, if_true, taken, complete]
        exact serve_status ..
      | false =>
        refine .limited key announced configured allowed ?_ ?_ ?_
        · rw [route]
          simp only [answerRoute, identified, allowed, complete]
          rfl
        · rw [route]
          simp only [answerRoute, identified, allowed]
          rfl
        · simp [performed?, notOptions, announced, routed, identified, allowed,
            Except.toOption]
    · refine .unknown announced unknown ?_ ?_ ?_
      · rw [route]
        simp only [answerRoute, identified, complete]
        exact status
      · rw [route]
        simp only [answerRoute, identified]
      · simp [performed?, notOptions, announced, routed, identified, Except.toOption]

/-- No request takes a count past the limit. -/
theorem within_answer (within : gateway.limiter.Within gateway.settings.rateLimit)
    (occasion : Occasion) (request : Http.Request) :
    (gateway.answer occasion request).2.limiter.Within gateway.settings.rateLimit := by
  rw [limiter_answer]
  split
  · exact within.allow _ _
  · exact within

/-- A request is one more for the key for which it counts, and nothing to the others. -/
theorem counts_answer {start earlier : Nat} {key : String}
    (counts : gateway.limiter.Counts gateway.settings.rateLimit start key earlier)
    (occasion : Occasion) (request : Http.Request)
    (during : countedKey? gateway.settings request = some key →
      start ≤ occasion.now ∧ occasion.now ≤ start + span) :
    (gateway.answer occasion request).2.limiter.Counts gateway.settings.rateLimit start key
      (timesCounted gateway.settings [(occasion, request)] key + earlier) := by
  rw [limiter_answer]
  cases counted : countedKey? gateway.settings request with
  | none => simpa [timesCounted, counted] using counts
  | some other =>
    by_cases same : other = key
    · obtain ⟨begun, soon⟩ := during (same ▸ counted)
      subst same
      rw [Nat.add_comm]
      simpa [timesCounted, counted] using counts.allow_self begun soon
    · simpa [timesCounted, counted, same] using counts.allow_other same occasion.now

/-! ## Many requests -/

/-- The requests that count for a key all fall into one window, which opens with the first
of them: the last window of the key has run out before. -/
structure InOneWindow (gateway : Gateway) (start : String → Nat)
    (requests : List (Occasion × Http.Request)) : Prop where
  runOut : ∀ key window, gateway.limiter.get? key = some window → span < start key - window.start
  during : ∀ asked ∈ requests, ∀ key, countedKey? gateway.settings asked.2 = some key →
    start key ≤ asked.1.now ∧ asked.1.now ≤ start key + span

/-- No number of requests changes the settings. -/
theorem settings_answerAll (gateway : Gateway) (requests : List (Occasion × Http.Request)) :
    (gateway.answerAll requests).2.settings = gateway.settings := by
  induction requests generalizing gateway with
  | nil => rfl
  | cons asked rest inductionHypothesis =>
    exact (inductionHypothesis _).trans (gateway.settings_answer asked.1 asked.2)

/-- No number of requests takes a count past the limit. -/
theorem within_answerAll (requests : List (Occasion × Http.Request))
    (within : gateway.limiter.Within gateway.settings.rateLimit) :
    (gateway.answerAll requests).2.limiter.Within gateway.settings.rateLimit := by
  induction requests generalizing gateway with
  | nil => exact within
  | cons asked rest inductionHypothesis =>
    have next := within_answer within asked.1 asked.2
    rw [← gateway.settings_answer asked.1 asked.2] at next ⊢
    exact inductionHypothesis next

/-- After any requests the limiter knows of a key how many of them counted for it. The
induction is on the requests, from the first one on. -/
theorem counts_answerAll {start earlier : Nat} {key : String}
    (requests : List (Occasion × Http.Request))
    (counts : gateway.limiter.Counts gateway.settings.rateLimit start key earlier)
    (during : ∀ asked ∈ requests, countedKey? gateway.settings asked.2 = some key →
      start ≤ asked.1.now ∧ asked.1.now ≤ start + span) :
    (gateway.answerAll requests).2.limiter.Counts gateway.settings.rateLimit start key
      (timesCounted gateway.settings requests key + earlier) := by
  induction requests generalizing gateway earlier with
  | nil => simpa [timesCounted, answerAll] using counts
  | cons asked rest inductionHypothesis =>
    obtain ⟨first, later⟩ := List.forall_mem_cons.mp during
    have next := counts_answer counts asked.1 asked.2 first
    have apart : timesCounted gateway.settings (asked :: rest) key =
        timesCounted gateway.settings rest key + timesCounted gateway.settings [asked] key := by
      rw [← List.singleton_append, timesCounted, List.countP_append, Nat.add_comm]
      rfl
    rw [apart, Nat.add_assoc]
    rw [← gateway.settings_answer asked.1 asked.2] at next later ⊢
    exact inductionHypothesis next later

/-- A request in one window with others is let through exactly if fewer than the limit have
come before it with the same key. -/
theorem InOneWindow.allow_iff {start : String → Nat} {before : List (Occasion × Http.Request)}
    {occasion : Occasion} {key : String}
    (inOneWindow : InOneWindow gateway start (before ++ [(occasion, request)]))
    (counted : countedKey? gateway.settings request = some key) :
    ((gateway.answerAll before).2.limiter.allow gateway.settings.rateLimit key
        occasion.now).1 = true ↔
      timesCounted gateway.settings before key < gateway.settings.rateLimit := by
  obtain ⟨begun, soon⟩ := inOneWindow.during (occasion, request) (by simp) key counted
  have unseen : gateway.limiter.Counts gateway.settings.rateLimit (start key) key 0 :=
    .none (inOneWindow.runOut key)
  have counts := counts_answerAll before unseen fun earlier member =>
    inOneWindow.during earlier (List.mem_append_left _ member) key
  exact counts.allow_iff begun soon

/-- Of the data requests in one window, those without a configured key are refused for it, and
the others exactly if as many as the limit have come before them with the same key, whatever
else was asked for and whatever became of it. A refused request performs nothing, one without
a configured key counts for nobody, and no count passes the limit. All this does not touch a
request that announces a body over the limit: it is refused for that alone. -/
theorem data_request_limited_iff {start : String → Nat}
    {before : List (Occasion × Http.Request)} {occasion : Occasion} (asked : IsDataRequest request)
    (within : gateway.limiter.Within gateway.settings.rateLimit)
    (inOneWindow : InOneWindow gateway start (before ++ [(occasion, request)])) :
    let between := (gateway.answerAll before).2
    let answered := between.answer occasion request
    let status := answered.1.status
    let overLong := request.announcesTooMuch gateway.settings.maxBodySize = true
    let key? := configuredKey? gateway.settings request
    (overLong → status = 413) ∧
      (¬ overLong →
        (status = 401 ↔ key? = none) ∧
        ∀ key, key? = some key →
          (status = 429 ↔
            gateway.settings.rateLimit < timesCounted gateway.settings before key + 1)) ∧
      (overLong ∨ status = 401 ∨ status = 429 →
        between.performed? occasion request = none ∧ answered.2.service = between.service) ∧
      (overLong ∨ key? = none → answered.2 = between) ∧
      answered.2.limiter.Within gateway.settings.rateLimit := by
  intro between answered status overLong key?
  have settings : between.settings = gateway.settings := gateway.settings_answerAll before
  have withinAfter : answered.2.limiter.Within gateway.settings.rateLimit := by
    have next := within_answer (settings ▸ within_answerAll before within) occasion request
    exact settings ▸ next
  have allowed_iff : ¬ overLong → ∀ key, key? = some key →
      ((between.limiter.allow between.settings.rateLimit key occasion.now).1 = true ↔
        timesCounted gateway.settings before key < gateway.settings.rateLimit) := by
    intro notOverLong key presented
    have counted : countedKey? gateway.settings request = some key := by
      rwa [asked.countedKey? (by simpa [overLong] using notOverLong)]
    exact settings ▸ inOneWindow.allow_iff counted
  cases asked.treated between occasion with
  | overLong announced answeredSo same untouched =>
    rw [settings] at announced
    exact ⟨fun _ => answeredSo, fun notOverLong => absurd announced notOverLong,
      fun _ => ⟨untouched, congrArg Gateway.service same⟩, fun _ => same, withinAfter⟩
  | unknown announced configured answeredSo same untouched =>
    rw [settings] at announced configured
    have notOverLong : ¬ overLong := by simp [overLong, announced]
    refine ⟨fun long => absurd long notOverLong, fun _ => ⟨iff_of_true answeredSo configured, ?_⟩,
      fun _ => ⟨untouched, congrArg Gateway.service same⟩, fun _ => same, withinAfter⟩
    intro key presented
    exact nomatch configured.symm.trans presented
  | limited key announced configured refused answeredSo same untouched =>
    rw [settings] at announced configured
    have notOverLong : ¬ overLong := by simp [overLong, announced]
    refine ⟨fun long => absurd long notOverLong, fun _ => ⟨?_, ?_⟩, fun _ => ⟨untouched, same⟩, ?_,
      withinAfter⟩
    · exact iff_of_false (by simp [status, answered, answeredSo]) (by simp [key?, configured])
    · intro other presented
      obtain rfl : key = other := Option.some.inj (configured.symm.trans presented)
      have notFewer := mt (allowed_iff notOverLong key presented).mpr (by simp [refused])
      exact iff_of_true answeredSo (by omega)
    · rintro (long | missing)
      · exact absurd long notOverLong
      · exact nomatch configured.symm.trans missing
  | served key announced configured allowed answeredSo =>
    rw [settings] at announced configured
    have notOverLong : ¬ overLong := by simp [overLong, announced]
    have other : status ≠ 401 ∧ status ≠ 429 := by
      constructor <;>
      · intro same
        rw [show (between.answer occasion request).1.status = _ from same] at answeredSo
        revert answeredSo
        decide
    refine ⟨fun long => absurd long notOverLong, fun _ => ⟨?_, ?_⟩, ?_, ?_, withinAfter⟩
    · exact iff_of_false other.1 (by simp [key?, configured])
    · intro presenting presented
      obtain rfl : key = presenting := Option.some.inj (configured.symm.trans presented)
      have fewer := (allowed_iff notOverLong key presented).mp allowed
      exact iff_of_false other.2 (by omega)
    · rintro (long | missing | tooMany)
      · exact absurd long notOverLong
      · exact absurd missing other.1
      · exact absurd tooMany other.2
    · rintro (long | missing)
      · exact absurd long notOverLong
      · exact nomatch configured.symm.trans missing

/-- A request to read a collection, with a key. -/
def keyedReading (key : Bytes) : Http.Request :=
  ⟨"GET", "/api/1.0/d/c", [("x-api-key", key)], []⟩

/-- The theorem at a limit of one request: after a request with the key and one with an unknown
key, the next one with the key is refused. -/
theorem second_reading_limited :
    let gateway := { withOneScope "objgate.objects.d.c.read" with settings.rateLimit := 1 }
    let occasion : Occasion := {}
    let before := [(occasion, keyedReading [107]), (occasion, keyedReading [108])]
    IsDataRequest (keyedReading [107]) ∧ gateway.limiter.Within gateway.settings.rateLimit ∧
      InOneWindow gateway (fun _ => 0) (before ++ [(occasion, keyedReading [107])]) ∧
      ((gateway.answerAll before).2.answer occasion (keyedReading [107])).1.status = 429 := by
  intro gateway occasion before
  have asked : IsDataRequest (keyedReading [107]) := ⟨.wholeCollection "d" "c", by decide, by decide⟩
  have within : gateway.limiter.Within gateway.settings.rateLimit :=
    fun key window found => nomatch found
  have inOneWindow : InOneWindow gateway (fun _ => 0) (before ++ [(occasion, keyedReading [107])]) := by
    refine ⟨fun key window found => (nomatch found), fun asked member key _ => ?_⟩
    have atOnce : asked.1.now = 0 := by
      simp only [before, List.cons_append, List.nil_append, List.mem_cons, List.not_mem_nil,
        or_false] at member
      rcases member with rfl | rfl | rfl <;> rfl
    simp [atOnce]
  obtain ⟨-, decisions, -⟩ := data_request_limited_iff asked within inOneWindow
  have tooMany : gateway.settings.rateLimit < timesCounted gateway.settings before "k" + 1 := by
    decide
  exact ⟨asked, within, inOneWindow, ((decisions (by decide)).2 "k" (by decide)).mpr tooMany⟩

/-- A request without a key that announces a body over the limit is refused for its length. -/
theorem overlong_request_refused_first :
    let gateway := withOneScope "objgate.objects.d.c.insert"
    let request : Http.Request :=
      ⟨"POST", "/api/1.0/d/c", [("content-length", List.replicate 11 57)], []⟩
    IsDataRequest request ∧ configuredKey? gateway.settings request = none ∧
      (gateway.answer {} request).1.status ≠ 401 :=
  ⟨⟨.wholeCollection "d" "c", by decide, by decide⟩, by decide, by decide⟩

end DocumentGateway.Gateway

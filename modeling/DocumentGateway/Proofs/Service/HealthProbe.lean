import DocumentGateway.Proofs.Decimal.Digits
import DocumentGateway.Proofs.Store.Reachable

/-!
# Probes of the health

A probe inserts a document, reads it and deletes it again. In a sound backend the three together
change nothing: an insertion that is refused stores nothing, and one that is done is undone by the
deletion, which takes the collection away again if the probe has brought it. The document can
always be read, so what decides is whether it can be inserted. The backends here raise no errors
of their own.

The identifier of the document comes with the number of the probe, which every probe uses up. As
long as the numbers do not start over, no two probes of a service have one identifier, and a
document that is in the way of one of them is in the way of no other.
-/
namespace DocumentGateway

/-! ## Round trips -/

namespace DocumentStore

variable {store : DocumentStore} {database collection id : String}

/-- What is stored for a body with a given identifier, in a collection that may be written to, is
its document, unless something is stored under the identifier. -/
theorem insert_given {space : String}
    (writable : store.writableAddress database collection = .ok space)
    (accepted : validateId id = .ok ()) (members : Document) :
    store.insert database collection (some id) (.object members) =
      match store.backend.insertNew space [(id, store.compression.encode (withId id members))] with
      | .error error => (.error error, store.setAside 1)
      | .ok backend => (.ok (withId id members), { store.setAside 1 with backend }) := by
  have prepared : store.prepareInsert database collection (some id) (.object members) =
      .ok (space, id, withId id members) := by
    simp [prepareInsert, writable, documentOfBody, chooseId, accepted, bind, Except.bind, Except.map]
  cases stored : store.backend.insertNew space
      [(id, store.compression.encode (withId id members))] with
  | error error => simp only [insert, prepared, stored]
  | ok backend => simp only [insert, prepared, stored]

/-- The document of a probe is read as it was stored, with whatever codec. -/
theorem decode_probe (compression : Compression) (id : String) :
    compression.decode (compression.encode (withId id [("probe", .bool true)])) =
      .ok (withId id [("probe", .bool true)]) := by
  have regular : (Json.object [("probe", .bool true)]).Regular Json.maxDepth :=
    .object (by decide) (by simp [Json.Regular.bool])
  have exact : (Json.object [("probe", .bool true)]).Exact := by
    rintro members same member inMembers - x inValue
    obtain rfl := Json.object.inj same
    obtain rfl := List.mem_singleton.mp inMembers
    simp [Json.reals] at inValue
  exact (compression.reread_withId_iff regular id).mpr exact

/-- Where nothing is stored under the identifier, a probe brings a document that can be read, and
takes it away again. -/
theorem roundTrip_free (sound : store.backend.Sound) {space : String}
    (writable : store.writableAddress database collection = .ok space)
    (accepted : validateId id = .ok ()) (free : store.backend.get? space id = none) :
    Service.roundTrip store database collection id = (.ok (), store.setAside 1) := by
  have checked := ((writableAddress_ok_iff _ _ _ _).mp writable).1
  have named := nulFree_of_checkedAddress checked
  obtain ⟨filled, stored, contents, -⟩ := Backend.insertNew_one_free
    (store.compression.encode (withId id [("probe", .bool true)])) named free
  let between : DocumentStore := { store.setAside 1 with backend := filled }
  have inserted : store.insert database collection (some id) (.object [("probe", .bool true)]) =
      (.ok (withId id [("probe", .bool true)]), between) := by
    rw [insert_given writable accepted, stored]
  have read : between.get database collection id =
      .ok (some (withId id [("probe", .bool true)])) := by
    rw [get_of_checked checked, contents space id named, if_pos ⟨rfl, rfl⟩, Option.map_some]
    exact congrArg (answerOf ∘ some) (decode_probe store.compression id)
  have deleted : between.delete database collection id =
      (.ok (filled.delete space id).1, store.setAside 1) := by
    have writableBetween : between.writableAddress database collection = .ok space := writable
    rw [delete, writableBetween]
    simp only [between, Backend.delete_inserted sound named stored]
    rfl
  rw [Service.roundTrip, inserted]
  simp only [read, deleted]
  rfl

/-- A probe of a collection with proper names leaves all but the supply of identifiers as it is.
It succeeds exactly if the collection is not listed as immutable and nothing is stored under the
identifier. -/
theorem roundTrip_eq (sound : store.backend.Sound) (validDatabase : ValidName database)
    (validCollection : ValidName collection) (accepted : validateId id = .ok ()) :
    Service.roundTrip store database collection id =
      (if store.immutable.contains database collection = true then
          .error (.immutableCollection database collection)
        else if (store.backend.get? (address database collection) id).isSome then
          .error (takenId (address database collection) id)
        else .ok (), store.setAside 1) := by
  by_cases listed : store.immutable.contains database collection = true
  · have unwritable := writableAddress_listed validDatabase validCollection listed
    have refused : store.insert database collection (some id) (.object [("probe", .bool true)]) =
        (.error (.immutableCollection database collection), store.setAside 1) := by
      simp [insert, prepareInsert, unwritable, bind, Except.bind]
    rw [Service.roundTrip, refused, if_pos listed]
  · have checked : checkedAddress database collection = .ok (address database collection) :=
      (checkedAddress_ok_iff _ _ _).mpr ⟨validDatabase, validCollection, rfl⟩
    have writable : store.writableAddress database collection = .ok (address database collection) :=
      (writableAddress_ok_iff _ _ _ _).mpr ⟨checked, Bool.not_eq_true _ ▸ listed⟩
    rw [if_neg listed]
    cases found : store.backend.get? (address database collection) id with
    | none => exact roundTrip_free sound writable accepted found
    | some old =>
      have named := nulFree_of_checkedAddress checked
      have refused := insert_given writable accepted [("probe", .bool true)]
      rw [Backend.insertNew_one_taken _ named found] at refused
      rw [Service.roundTrip, refused]
      rfl

end DocumentStore

/-! ## One probe -/

/-- Settings of the probe are accepted if it can write where it is told to, and a slow answer is
noticed before it is given up. -/
theorem HealthSettings.validate_ok_iff (settings : HealthSettings) :
    settings.validate = .ok () ↔ ValidName settings.database ∧ ValidName settings.collection ∧
      settings.degradedAfter < settings.timeout := by
  rw [validate]
  cases checked : checkedAddress settings.database settings.collection with
  | error error =>
    have invalid : ¬ (ValidName settings.database ∧ ValidName settings.collection) := by
      rintro ⟨validDatabase, validCollection⟩
      rw [(checkedAddress_ok_iff _ _ _).mpr ⟨validDatabase, validCollection, rfl⟩] at checked
      cases checked
    simpa using fun validDatabase validCollection => absurd ⟨validDatabase, validCollection⟩ invalid
  | ok space =>
    obtain ⟨validDatabase, validCollection, -⟩ := (checkedAddress_ok_iff _ _ _).mp checked
    by_cases ordered : settings.degradedAfter < settings.timeout <;>
      simp [ordered, validDatabase, validCollection]

/-- Settings that are accepted have a section for the health probe that is accepted. -/
theorem ServiceSettings.health_validate {settings : ServiceSettings}
    (valid : settings.validate = .ok ()) : settings.health.validate = .ok () := by
  rw [validate] at valid
  split at valid
  · cases valid
  · obtain ⟨_, -, afterCompiler⟩ := bind_eq_ok_iff.mp valid
    obtain ⟨_, -, accepted⟩ := bind_eq_ok_iff.mp afterCompiler
    exact accepted

namespace Service

/-- An identifier of a probe shows its number. -/
theorem toList_probeId (service : Service) : service.probeId.toList =
    "probe-".toList ++ Nat.toDigits 10 (service.probes % probeNumbers) := by
  rw [probeId, String.toList_append]
  exact congrArg _ Nat.toList_repr

/-- The identifiers of probes are accepted. -/
theorem validateId_probeId (service : Service) : validateId service.probeId = .ok () := by
  have characters := service.toList_probeId
  have nonempty : service.probeId.isEmpty = false := by
    rw [← Bool.not_eq_true, String.isEmpty_iff]
    intro bare
    rw [bare] at characters
    simp at characters
  have nulFree : '\x00' ∉ service.probeId.toList := by
    rw [characters, List.mem_append, not_or]
    refine ⟨by decide, fun member => ?_⟩
    have digit := Decimal.isDigit_of_mem_toDigits member
    revert digit
    decide
  simp [validateId, nonempty, nulFree]

/-- Two probes share an identifier only when their numbers have begun anew in between. -/
theorem probeId_eq_iff {left right : Service} :
    left.probeId = right.probeId ↔ left.probes % probeNumbers = right.probes % probeNumbers := by
  constructor
  · intro same
    have shown := congrArg String.toList same
    rw [toList_probeId, toList_probeId, List.append_cancel_left_eq] at shown
    exact Decimal.toDigits_injective shown
  · intro same
    rw [probeId, probeId, same]

/-- A document is in the way of the next probe: it is stored under the identifier of the probe. -/
def Obstructs (service : Service) (id : String) : Prop :=
  id = service.probeId ∧
    service.store.get service.health.database service.health.collection id ≠ .ok none

/-- A probe succeeds unless its collection is immutable or a document is in its way. -/
theorem roundTrip_ok_iff {service : Service} (sound : service.store.backend.Sound)
    (valid : service.health.validate = .ok ()) :
    (roundTrip service.store service.health.database service.health.collection
        service.probeId).1 = .ok () ↔
      ¬ (service.isImmutable service.health.database service.health.collection = true ∨
        ∃ id, service.Obstructs id) := by
  obtain ⟨validDatabase, validCollection, -⟩ := service.health.validate_ok_iff.mp valid
  have checked := (checkedAddress_ok_iff _ _ _).mpr ⟨validDatabase, validCollection, rfl⟩
  have obstructed : (∃ id, service.Obstructs id) ↔ (service.store.backend.get?
      (address service.health.database service.health.collection) service.probeId).isSome := by
    simp only [Obstructs, exists_eq_left, ne_eq, DocumentStore.get_eq_none_iff checked,
      Option.isSome_iff_ne_none]
  rw [DocumentStore.roundTrip_eq sound validDatabase validCollection service.validateId_probeId,
    obstructed, isImmutable, not_or]
  by_cases listed : service.store.immutable.contains service.health.database
      service.health.collection = true
  · simp [listed]
  · cases service.store.backend.get? (address service.health.database service.health.collection)
      service.probeId <;> simp [listed]

/-- A probe that is faster than the limits is judged by its result alone. -/
theorem judge_fast {settings : HealthSettings} (ordered : settings.degradedAfter < settings.timeout)
    {elapsed : Nat} (fast : elapsed ≤ settings.degradedAfter * nanosPerMilli)
    (result : Except StoreError Unit) :
    ((judge settings result elapsed).status = .healthy ↔ result = .ok ()) ∧
      ((judge settings result elapsed).status = .unhealthy ↔ result ≠ .ok ()) := by
  cases result with
  | error error => simp [judge]
  | ok _ =>
    have inTime : ¬ settings.timeout * nanosPerMilli < elapsed := by
      have longer : settings.degradedAfter * nanosPerMilli ≤ settings.timeout * nanosPerMilli :=
        Nat.mul_le_mul_right nanosPerMilli (Nat.le_of_lt ordered)
      omega
    simp [judge, inTime, Nat.not_lt.mpr fast]

end Service

/-! ## Runs of a service -/

/-- A call of a service. The filters and pipelines of a call may be ones that could not be read. -/
inductive ServiceCall where
  | get (database collection id : String)
  | getAll (database collection : String)
  | insert (database collection : String) (given : Option String) (body : Json)
  | insertMany (database collection : String) (bodies : List Json)
  | replace (database collection id : String) (body : Json)
  | delete (database collection id : String)
  | find (database collection : String) (filter : Except StoreError Filter) (selection : Selection)
  | count (database collection : String) (filter : Except StoreError Filter)
  | distinct (database collection field : String) (filter : Except StoreError Filter)
  | aggregate (database collection : String) (pipeline : Except StoreError Pipeline)
  | search (database collection : String) (search : Option String) (selection : Selection)
  | searchCount (database collection : String) (search : Option String)
  | collectionExists (database collection : String)
  | dropCollection (database collection : String)
  | listCollections (database : String)
  | probe (elapsed : Nat)

/-- Whether a call is a probe. -/
def ServiceCall.isProbe : ServiceCall → Bool
  | .probe _ => true
  | _ => false

namespace Service

/-- The service after a call. -/
def after (service : Service) : ServiceCall → Service
  | .get database collection id => (service.get database collection id).2
  | .getAll database collection => (service.getAll database collection).2
  | .insert database collection given body => (service.insert database collection given body).2
  | .insertMany database collection bodies => (service.insertMany database collection bodies).2
  | .replace database collection id body => (service.replace database collection id body).2
  | .delete database collection id => (service.delete database collection id).2
  | .find database collection filter selection =>
    (service.find database collection filter selection).2
  | .count database collection filter => (service.count database collection filter).2
  | .distinct database collection field filter =>
    (service.distinct database collection field filter).2
  | .aggregate database collection pipeline => (service.aggregate database collection pipeline).2
  | .search database collection search selection =>
    (service.search database collection search selection).2
  | .searchCount database collection search => (service.searchCount database collection search).2
  | .collectionExists database collection => (service.collectionExists database collection).2
  | .dropCollection database collection => (service.dropCollection database collection).2
  | .listCollections database => (service.listCollections database).2
  | .probe elapsed => (service.probeHealth elapsed).2

/-- The states of a service in which the probes of a run are made. -/
def probed (service : Service) : List ServiceCall → List Service
  | [] => []
  | call :: rest =>
    if call.isProbe then service :: (service.after call).probed rest
    else (service.after call).probed rest

/-- A probe uses up a number, and nothing else does. -/
theorem probes_after (service : Service) (call : ServiceCall) :
    (service.after call).probes = service.probes + if call.isProbe then 1 else 0 := by
  cases call <;> rfl

/-- The probes of a run are numbered one after another, whatever comes of them. -/
theorem probes_probed (service : Service) (calls : List ServiceCall) :
    (service.probed calls).map Service.probes =
      List.range' service.probes (service.probed calls).length := by
  induction calls generalizing service with
  | nil => rfl
  | cons call rest inductionHypothesis =>
    have later := inductionHypothesis (service.after call)
    rw [probes_after] at later
    cases kind : call.isProbe with
    | true =>
      rw [kind, if_pos rfl] at later
      simp only [probed, kind, if_true, List.map_cons, List.length_cons, List.range'_succ, later]
    | false =>
      rw [kind, if_neg Bool.false_ne_true, Nat.add_zero] at later
      simp only [probed, kind, Bool.false_eq_true, if_false, later]

/-- The probes of a run have different identifiers as long as the numbers do not start over. -/
theorem probeIds_distinct (service : Service) {calls : List ServiceCall}
    (notOver : (service.probed calls).length ≤ probeNumbers) :
    (service.probed calls).Pairwise fun earlier later => earlier.probeId ≠ later.probeId := by
  have numbered := service.probes_probed calls
  have distinct : ((service.probed calls).map probes).Nodup := numbered ▸ List.nodup_range'
  have inRange : ∀ state ∈ service.probed calls, service.probes ≤ state.probes ∧
      state.probes < service.probes + (service.probed calls).length := by
    intro state member
    have listed : state.probes ∈ (service.probed calls).map probes := List.mem_map_of_mem member
    rw [numbered] at listed
    exact List.mem_range'_1.mp listed
  refine (List.pairwise_map.mp distinct).imp_of_mem fun isEarlier isLater different same => ?_
  have numbers := probeId_eq_iff.mp same
  have earlierInRange := inRange _ isEarlier
  have laterInRange := inRange _ isLater
  have size : probeNumbers = 2 ^ 64 := rfl
  rw [size] at numbers notOver
  omega

/-- A probe of a service with accepted settings leaves the store as it was, but for the supply of
identifiers, and advances its number, whatever it reports. If it is faster than the limits, it
reports that the store is unhealthy exactly if the health collection is immutable or a document is
in its way, and that it is healthy otherwise. In a run of calls in which the numbers do not start
over, no document is in the way of two probes. -/
theorem health_probe_leaves_no_trace {settings : ServiceSettings}
    (valid : settings.validate = .ok ()) {service : Service}
    (configured : service.health = settings.health) (reachable : service.store.Reachable) :
    (∀ elapsed, (service.probeHealth elapsed).2.store = service.store.setAside 1 ∧
        (service.probeHealth elapsed).2.probes = service.probes + 1) ∧
      (∀ elapsed, elapsed ≤ settings.health.degradedAfter * nanosPerMilli →
        let blocked :=
          service.isImmutable settings.health.database settings.health.collection = true ∨
            ∃ id, service.Obstructs id
        ((service.probeHealth elapsed).1.status = .unhealthy ↔ blocked) ∧
          ((service.probeHealth elapsed).1.status = .healthy ↔ ¬ blocked)) ∧
      ∀ calls, (service.probed calls).length ≤ probeNumbers →
        (service.probed calls).Pairwise fun earlier later =>
          ∀ id, ¬ (earlier.Obstructs id ∧ later.Obstructs id) := by
  have accepted : service.health.validate = .ok () := configured ▸ settings.health_validate valid
  obtain ⟨validDatabase, validCollection, ordered⟩ := service.health.validate_ok_iff.mp accepted
  refine ⟨fun elapsed => ⟨?_, rfl⟩, fun elapsed fast => ?_, fun calls notOver => ?_⟩
  · exact congrArg Prod.snd (DocumentStore.roundTrip_eq reachable.sound validDatabase validCollection
      service.validateId_probeId)
  · rw [← configured] at fast ⊢
    intro blocked
    obtain ⟨healthy, unhealthy⟩ := judge_fast ordered fast
      (roundTrip service.store service.health.database service.health.collection
        service.probeId).1
    have succeeds := roundTrip_ok_iff reachable.sound accepted
    exact ⟨unhealthy.trans (succeeds.not.trans not_not), healthy.trans succeeds⟩
  · refine (service.probeIds_distinct notOver).imp fun different id => ?_
    rintro ⟨⟨own, -⟩, ⟨ownToo, -⟩⟩
    exact different (own.symm.trans ownToo)

/-- The second probe of a service finds a document under its identifier. -/
theorem health_probe_leaves_document_in_its_way :
    let settings : ServiceSettings := {}
    let filling : StoreOperation := .call
      (.insert settings.health.database settings.health.collection (some "probe-1") (.object []))
    let empty : DocumentStore :=
      { backend := .memory .empty, compression := { codec := .none }, immutable := .empty
        ids := ⟨0, fun _ => "spare"⟩ }
    let service : Service :=
      { store := empty.after filling, compiler := {}, health := settings.health, probes := 1
        records := [] }
    settings.validate = .ok () ∧ service.store.Reachable ∧
      (service.probeHealth 5).1.status = .unhealthy ∧
      (service.probeHealth 5).2.store = service.store.setAside 1 := by
  intro settings filling empty service
  have compiler : settings.compiler.validate = .ok () := by
    rw [Search.Settings.validate, if_neg (by decide), if_neg (by decide)]
  have compression : settings.store.compression.validate = .ok () := by rfl
  have health : settings.health.validate = .ok () := (HealthSettings.validate_ok_iff _).mpr (by decide)
  have valid : settings.validate = .ok () := by
    simp [ServiceSettings.validate, ServiceSettings.versions, compiler, compression, health, settings,
      Except.mapError, bind, Except.bind]
  have regular : ∀ body ∈ filling.bodies, ∃ levels, body.Regular levels := by
    intro body member
    obtain rfl : body = .object [] := List.mem_singleton.mp member
    exact ⟨1, .object List.nodup_nil (by simp)⟩
  have reachable : service.store.Reachable :=
    .operated (.opened (.inl rfl) _ _ _) filling regular
  have inTheWay : service.Obstructs "probe-1" := by
    obtain ⟨validDatabase, validCollection, -⟩ := (HealthSettings.validate_ok_iff _).mp health
    have checked := (checkedAddress_ok_iff _ _ _).mpr ⟨validDatabase, validCollection, rfl⟩
    refine ⟨by decide +kernel, (DocumentStore.get_eq_none_iff checked _).not.mpr ?_⟩
    decide +kernel
  obtain ⟨kept, judged, -⟩ :=
    health_probe_leaves_no_trace valid (rfl : service.health = settings.health) reachable
  exact ⟨valid, reachable, (judged 5 (by decide)).1.mpr (.inr ⟨_, inTheWay⟩), (kept 5).1⟩

end Service

end DocumentGateway

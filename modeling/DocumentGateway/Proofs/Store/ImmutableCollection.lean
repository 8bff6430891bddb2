import DocumentGateway.Proofs.Store.CollectionWrites
import DocumentGateway.Service.Basic

/-!
# Immutable collections

A collection that is listed as immutable stays as it is through every run of operations on
an open store, whatever the backend held when the store was opened. Every write that aims
at it is refused, and the writes that aim elsewhere do not reach it. Only one step is
looked at; runs follow by induction on their operations.
-/
namespace DocumentGateway

/-- What is done with an open store: one of the calls, one of the reads beyond them, or a
probe of its health. -/
inductive StoreOperation where
  | call (call : StoreCall)
  | find (database collection : String) (filter : Filter) (selection : Selection)
  | distinct (database collection field : String) (filter : Filter)
  | aggregate (database collection : String) (pipeline : Pipeline)
  | probe (database collection id : String)

namespace DocumentStore

/-- The store after an operation. -/
def after (store : DocumentStore) : StoreOperation → DocumentStore
  | .call call => (store.perform call).2
  | .find _ _ _ _ => store
  | .distinct _ _ _ _ => store
  | .aggregate _ _ _ => store
  | .probe database collection id => (Service.roundTrip store database collection id).2

/-- The store after a run of operations. -/
def afterAll (store : DocumentStore) (operations : List StoreOperation) : DocumentStore :=
  operations.foldl after store

/-- A probe stops at an insertion that is refused. After one that is done it deletes, whatever it
has read. -/
theorem roundTrip_cases (store : DocumentStore) (database collection id : String) :
    let inserted := store.insert database collection (some id) (.object [("probe", .bool true)])
    (∃ error, inserted.1 = .error error ∧
        Service.roundTrip store database collection id = (.error error, inserted.2)) ∨
      (∃ document, inserted.1 = .ok document) ∧
        (Service.roundTrip store database collection id).2 =
          (inserted.2.delete database collection id).2 := by
  intro inserted
  unfold Service.roundTrip
  split
  · rename_i error between outcome
    exact .inl ⟨error, congrArg Prod.fst outcome, congrArg _ (congrArg Prod.snd outcome).symm⟩
  · rename_i document between outcome
    have after : inserted.2 = between := congrArg Prod.snd outcome
    refine .inr ⟨⟨document, congrArg Prod.fst outcome⟩, ?_⟩
    rw [after]
    dsimp only
    split <;> rfl

/-! ## Steps and runs -/

/-- What every write keeps, every operation keeps: a read changes nothing, and a probe is an
insertion and at most a deletion after it. -/
theorem after_keeps {Keeps : DocumentStore → DocumentStore → Prop}
    (refl : ∀ store, Keeps store store)
    (trans : ∀ {before between after}, Keeps before between → Keeps between after →
      Keeps before after)
    (write : ∀ {before after database collection permission},
      Changed before database collection permission after → Keeps before after)
    (store : DocumentStore) (operation : StoreOperation) : Keeps store (store.after operation) := by
  cases operation with
  | call call =>
    cases call with
    | insert database collection given body =>
      exact write (store.insert_changed database collection given body)
    | insertMany database collection bodies =>
      exact write (store.insertMany_changed database collection bodies)
    | replace database collection id body =>
      exact write (store.replace_changed database collection id body)
    | delete database collection id => exact write (store.delete_changed database collection id)
    | dropCollection database collection =>
      exact write (store.dropCollection_changed database collection)
    | get | getAll | count | collectionExists | listCollections => exact refl store
  | probe database collection id =>
    have inserted := write (store.insert_changed database collection (some id)
      (.object [("probe", .bool true)]))
    rw [after]
    rcases store.roundTrip_cases database collection id with ⟨error, -, refused⟩ | ⟨-, undone⟩
    · rw [refused]
      exact inserted
    · rw [undone]
      exact trans inserted (write (delete_changed _ database collection id))
  | find | distinct | aggregate => exact refl store

/-- The same collections are listed as immutable as before, and what is shown of them is
the same. -/
structure KeepsListed (before after : DocumentStore) : Prop where
  immutable : after.immutable = before.immutable
  compression : after.compression = before.compression
  collections : ∀ database collection, before.immutable.contains database collection = true →
    SameCollection before after database collection

namespace KeepsListed

/-- A store that is left as it is keeps its listed collections. -/
theorem refl (store : DocumentStore) : KeepsListed store store :=
  ⟨rfl, rfl, fun database collection _ => .refl store database collection⟩

/-- What two runs in a row keep each, they keep together. -/
theorem trans {before between after : DocumentStore} (first : KeepsListed before between)
    (second : KeepsListed between after) : KeepsListed before after := by
  refine ⟨second.immutable.trans first.immutable, second.compression.trans first.compression, ?_⟩
  intro database collection listed
  have listedBetween : between.immutable.contains database collection = true :=
    first.immutable ▸ listed
  exact (first.collections database collection listed).trans
    (second.collections database collection listedBetween)

end KeepsListed

/-- A write keeps the immutable collections, whichever collection it aims at. -/
theorem Changed.keepsListed {before after : DocumentStore} {database collection : String}
    {permission : Permission} (changed : Changed before database collection permission after) :
    KeepsListed before after := by
  refine ⟨changed.immutable_eq, changed.compression_eq, ?_⟩
  intro listedDatabase listedCollection listed
  refine changed.sameCollection fun same => ?_
  obtain ⟨rfl, rfl⟩ := Prod.mk.inj same
  exact listed

/-- Every operation keeps the immutable collections. -/
theorem keepsListed_after (store : DocumentStore) (operation : StoreOperation) :
    KeepsListed store (store.after operation) :=
  after_keeps .refl .trans Changed.keepsListed store operation

/-- Every run keeps the immutable collections. The induction is on its operations, from the
first one on. -/
theorem keepsListed_afterAll (store : DocumentStore) (operations : List StoreOperation) :
    KeepsListed store (store.afterAll operations) := by
  induction operations generalizing store with
  | nil => exact .refl store
  | cons operation rest inductionHypothesis =>
    exact (store.keepsListed_after operation).trans (inductionHypothesis (store.after operation))

/-! ## Refused writes -/

/-- No collection that is listed as immutable has an address for writing. -/
theorem writableAddress_listed {store : DocumentStore} {database collection : String}
    (validDatabase : ValidName database) (validCollection : ValidName collection)
    (listed : store.immutable.contains database collection = true) :
    store.writableAddress database collection =
      .error (.immutableCollection database collection) := by
  have checked : checkedAddress database collection = .ok (address database collection) :=
    (checkedAddress_ok_iff _ _ _).mpr ⟨validDatabase, validCollection, rfl⟩
  rw [writableAddress, checked, ImmutableSet.check, if_pos listed]
  rfl

/-- Every way to write to a collection of the store fails with the error, whatever the
identifiers and the bodies. -/
structure RefusesWrites (store : DocumentStore) (database collection : String)
    (error : StoreError) : Prop where
  insert : ∀ given body, (store.insert database collection given body).1 = .error error
  insertMany : ∀ bodies, (store.insertMany database collection bodies).1 = .error error
  replace : ∀ id body, (store.replace database collection id body).1 = .error error
  delete : ∀ id, (store.delete database collection id).1 = .error error
  dropCollection : (store.dropCollection database collection).1 = .error error
  probe : ∀ id, (Service.roundTrip store database collection id).1 = .error error

/-- Without an address for writing every write fails with the reason. -/
theorem refusesWrites {store : DocumentStore} {database collection : String} {error : StoreError}
    (unwritable : store.writableAddress database collection = .error error) :
    store.RefusesWrites database collection error := by
  have insertRefused : ∀ given body, (store.insert database collection given body).1 =
      .error error := by
    intro given body
    simp [insert, prepareInsert, unwritable, bind, Except.bind]
  refine ⟨insertRefused, fun bodies => ?_, fun id body => ?_, fun id => ?_, ?_, fun id => ?_⟩
  · simp [insertMany, unwritable, bind, Except.bind]
  · simp [replace, unwritable, bind, Except.bind]
  · simp [delete, unwritable]
  · simp [dropCollection, unwritable]
  · have probeRefused := insertRefused (some id) (.object [("probe", .bool true)])
    rcases store.roundTrip_cases database collection id with
      ⟨cause, outcome, refused⟩ | ⟨⟨document, outcome⟩, -⟩
    · rw [refused]
      exact congrArg Except.error (Except.error.inj (outcome.symm.trans probeRefused))
    · rw [outcome] at probeRefused
      cases probeRefused

/-- Through every run of operations, a collection that is listed as immutable shows the same
document under every identifier and the same documents as a whole, and every write that
aims at it is refused for this reason. -/
theorem listed_collection_never_changes (store : DocumentStore)
    (operations : List StoreOperation) {database collection : String}
    (listed : store.immutable.contains database collection = true) :
    let reached := store.afterAll operations
    (∀ id, reached.get database collection id = store.get database collection id) ∧
      reached.getAll database collection = store.getAll database collection ∧
      reached.collectionExists database collection = store.collectionExists database collection ∧
      (ValidName database → ValidName collection →
        reached.RefusesWrites database collection (.immutableCollection database collection)) := by
  intro reached
  obtain ⟨immutable, compression, collections⟩ := store.keepsListed_afterAll operations
  have same := collections database collection listed
  refine ⟨fun id => (same.document id).symm, (same.getAll_eq compression.symm).symm,
    same.existence.symm, fun validDatabase validCollection => ?_⟩
  have stillListed : reached.immutable.contains database collection = true := immutable ▸ listed
  exact refusesWrites (writableAddress_listed validDatabase validCollection stillListed)

/-- The theorem at a store with one listed collection, which is to be dropped, filled and
probed. -/
theorem listed_collection_survives_drop :
    let store : DocumentStore :=
      { backend := .memory ⟨SortedMap.empty.insert "d/c" (SortedMap.empty.insert "a" (.plain "{}"))⟩
        compression := { codec := .none }
        immutable := ImmutableSet.empty.insert ⟨"d", "c"⟩
        ids := ⟨0, fun _ => "spare"⟩ }
    let operations : List StoreOperation :=
      [.call (.dropCollection "d" "c"), .call (.insert "d" "c" none (.object [])),
        .call (.insertMany "d" "other" [.object []]), .probe "d" "c" "p"]
    store.immutable.contains "d" "c" = true ∧
      (store.afterAll operations).get "d" "c" "a" = .ok (some []) ∧
      ((store.afterAll operations).delete "d" "c" "a").1 = .error (.immutableCollection "d" "c") := by
  intro store operations
  have listed : store.immutable.contains "d" "c" = true := by decide
  obtain ⟨document, -, -, refuses⟩ := listed_collection_never_changes store operations listed
  refine ⟨listed, (document "a").trans ?_, (refuses (by decide) (by decide)).delete "a"⟩
  rfl

end DocumentStore

end DocumentGateway

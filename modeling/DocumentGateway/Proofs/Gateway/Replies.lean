import DocumentGateway.Proofs.Gateway.DataRequest
import DocumentGateway.Proofs.Store.AlikeStores

/-!
# What replies depend on and what they change

A task is done on one collection, under one permission. Its reply changes a store as a
write under this permission at this collection can, and services that are alike on some
collections reply alike to a task on one of them. Both are said of whole replies, which
go on from one operation of the service to the next.
-/
namespace DocumentGateway

open DocumentStore (Changed)

namespace Service

/-! ## Changes -/

section Changes

/-- The store after going on with an outcome is the one after the outcome or the one after
what follows. -/
theorem store_next {α : Type} {P : DocumentStore → Prop} {outcome : Outcome α}
    {next : α → Service → Reply} (failed : P outcome.2.store)
    (done : ∀ value, P (next value outcome.2).2.store) : P (outcome.next next).2.store := by
  obtain ⟨result, service⟩ := outcome
  cases result with
  | error error => exact failed
  | ok value => exact done value

/-- What holds of the store both if the reading fails and after what is done with the value holds
after both together. -/
theorem store_whenRead {α : Type} {P : DocumentStore → Prop} {service : Service}
    {read : Except GatewayError α} {next : α → Reply} (failed : P service.store)
    (done : ∀ value, P (next value).2.store) : P (service.whenRead read next).2.store := by
  cases read with
  | error error => exact failed
  | ok value => exact done value

variable (service : Service) (database collection : String)

/-- A reply changes the store as a write under the permission of its task can. -/
theorem perform_changed (task : Task) :
    Changed service.store database collection task.permission
      (service.perform database collection task).2.store := by
  have nothing : ∀ permission, Changed service.store database collection permission service.store :=
    fun permission => .nothing permission 0
  cases task with
  | getAll =>
    refine store_next (nothing _) fun present => ?_
    split
    · exact store_next (nothing _) fun documents => nothing _
    · exact nothing _
  | dropCollection =>
    refine store_next (nothing _) fun present => ?_
    split
    · have dropped := service.store.dropCollection_changed database collection
      refine store_next dropped fun done => ?_
      split <;> exact dropped
    · exact nothing _
  | get id =>
    refine store_next (nothing _) fun found => ?_
    split <;> exact nothing _
  | delete id =>
    have deleted := service.store.delete_changed database collection id
    refine store_next deleted fun done => ?_
    split <;> exact deleted
  | insert id format body =>
    refine store_whenRead (nothing _) fun value => ?_
    have inserted := service.store.insert_changed database collection id value
    exact store_next inserted fun document => inserted
  | replace id format body =>
    refine store_whenRead (nothing _) fun value => ?_
    have replaced := service.store.replace_changed database collection id value
    refine store_next replaced fun found => ?_
    split <;> exact replaced
  | find paging filter =>
    exact store_whenRead (nothing _) fun selection => store_next (nothing _) fun _ => nothing _
  | search parameters =>
    exact store_whenRead (nothing _) fun selection => store_next (nothing _) fun _ => nothing _
  | explain search => exact nothing _
  | count filter => exact store_next (nothing _) fun _ => nothing _
  | distinct field filter => exact store_next (nothing _) fun _ => nothing _
  | aggregate pipeline => exact store_next (nothing _) fun _ => nothing _
  | insertMany body =>
    refine store_whenRead (nothing _) fun bodies => ?_
    have inserted := service.store.insertMany_changed database collection bodies
    exact store_next inserted fun ids => inserted
  | insertCsv boundary body =>
    refine store_whenRead (nothing _) fun bodies => ?_
    have inserted := service.store.insertMany_changed database collection bodies
    exact store_next inserted fun ids => inserted

end Changes

/-! ## Alike services -/

/-- Two services that compile searches alike and whose stores are alike on all visible
collections. -/
structure AlikeOn (visible : String → String → Prop) (left right : Service) : Prop where
  compiler : left.compiler = right.compiler
  store : left.store.AlikeOn visible right.store

/-- Two services give the same answer and are alike afterwards. -/
structure AnsweredAlike {α : Type} (visible : String → String → Prop) (left right : α × Service) :
    Prop where
  answer : left.1 = right.1
  after : AlikeOn visible left.2 right.2

section Alike

variable {visible : String → String → Prop} {left right : Service} {α : Type}

/-- Two outcomes that are alike are followed by alike answers. -/
theorem alike_next {leftOutcome rightOutcome : Outcome α} {next : α → Service → Reply}
    (outcomes : AnsweredAlike visible leftOutcome rightOutcome)
    (done : ∀ value left right, AlikeOn visible left right →
      AnsweredAlike visible (next value left) (next value right)) :
    AnsweredAlike visible (leftOutcome.next next) (rightOutcome.next next) := by
  obtain ⟨result, left⟩ := leftOutcome
  obtain ⟨_, right⟩ := rightOutcome
  obtain ⟨rfl, after⟩ := outcomes
  cases result with
  | error error => exact ⟨rfl, after⟩
  | ok value => exact done value left right after

section

variable (alike : AlikeOn visible left right)

include alike

/-- The same value is answered alike. -/
theorem alike_reply (value : Json) :
    AnsweredAlike visible (left.reply value) (right.reply value) :=
  ⟨rfl, alike⟩

/-- The same refusal is answered alike. -/
theorem alike_refuse (error : GatewayError) :
    AnsweredAlike visible (left.refuse error) (right.refuse error) :=
  ⟨rfl, alike⟩

/-- What is read of the request is the same for both services, and so is what is done next. -/
theorem alike_whenRead (read : Except GatewayError α) {leftNext rightNext : α → Reply}
    (done : ∀ value, AnsweredAlike visible (leftNext value) (rightNext value)) :
    AnsweredAlike visible (left.whenRead read leftNext) (right.whenRead read rightNext) := by
  cases read with
  | error error => exact ⟨rfl, alike⟩
  | ok value => exact done value

/-- The same result is recorded alike, and both services keep their stores. -/
theorem alike_record (operation : Operation) {leftResult rightResult : Except StoreError α}
    (same : leftResult = rightResult) :
    AnsweredAlike visible (left.record operation leftResult)
      (right.record operation rightResult) :=
  ⟨same, alike.compiler, alike.store⟩

/-- Writes with the same result that leave the stores alike are recorded alike. -/
theorem alike_recordWrite (operation : Operation)
    {leftOutcome rightOutcome : DocumentGateway.Outcome α}
    (same : leftOutcome.1 = rightOutcome.1 ∧ leftOutcome.2.AlikeOn visible rightOutcome.2) :
    AnsweredAlike visible (left.recordWrite operation leftOutcome)
      (right.recordWrite operation rightOutcome) :=
  ⟨same.1, alike.compiler, same.2⟩

end

variable {database collection : String} (seen : visible database collection)

include seen

/-- What is read of a visible collection is the same. -/
theorem AlikeOn.sameCollection (alike : AlikeOn visible left right) :
    left.store.SameCollection right.store database collection :=
  alike.store.collections database collection seen

/-- All documents of a visible collection are answered alike. -/
theorem alike_replyAll (alike : AlikeOn visible left right) :
    AnsweredAlike visible (left.replyAll database collection)
      (right.replyAll database collection) := by
  have existence := (alike.sameCollection seen).existence
  refine alike_next (alike_record alike _ existence) fun present left right alike => ?_
  split
  · have documents := (alike.sameCollection seen).getAll_eq alike.store.compression
    exact alike_next (alike_record alike _ documents) fun _ _ _ alike => alike_reply alike _
  · exact alike_refuse alike _

/-- The removal of a visible collection is answered alike. -/
theorem alike_replyDrop (alike : AlikeOn visible left right) :
    AnsweredAlike visible (left.replyDrop database collection)
      (right.replyDrop database collection) := by
  have existence := (alike.sameCollection seen).existence
  refine alike_next (alike_record alike _ existence) fun present left right alike => ?_
  split
  · have dropped := alike.store.dropCollection seen
    refine alike_next (alike_recordWrite alike _ dropped) fun done left right alike => ?_
    split
    · exact ⟨rfl, alike⟩
    · exact alike_refuse alike _
  · exact alike_refuse alike _

/-- A batch for a visible collection is answered alike. -/
theorem alike_replyInsertMany (alike : AlikeOn visible left right)
    (bodies : Except GatewayError (List Json)) :
    AnsweredAlike visible (left.replyInsertMany database collection bodies)
      (right.replyInsertMany database collection bodies) :=
  alike_whenRead alike bodies fun bodies =>
    alike_next (alike_recordWrite alike _ (alike.store.insertMany seen bodies))
      fun _ _ _ alike => alike_reply alike _

/-- A search in a visible collection is answered alike. -/
theorem alike_replySearch (alike : AlikeOn visible left right) (parameters : SearchParameters) :
    AnsweredAlike visible (left.replySearch database collection parameters)
      (right.replySearch database collection parameters) := by
  refine alike_whenRead alike _ fun selection => ?_
  have found : ∀ filter, left.store.find database collection filter selection =
      right.store.find database collection filter selection := fun filter =>
    (alike.sameCollection seen).find_eq alike.store.compression filter selection
  refine alike_next (alike_record alike _ ?_) fun _ _ _ alike => alike_reply alike _
  rw [searchFilter, searchFilter, alike.compiler]
  simp only [found]

/-- Alike services reply alike to every task on a visible collection. -/
theorem alike_perform (alike : AlikeOn visible left right) (task : Task) :
    AnsweredAlike visible (left.perform database collection task)
      (right.perform database collection task) := by
  have same := alike.sameCollection seen
  have codec := alike.store.compression
  cases task with
  | getAll => exact alike_replyAll seen alike
  | dropCollection => exact alike_replyDrop seen alike
  | get id =>
    refine alike_next (alike_record alike _ (same.document id)) fun found left right alike => ?_
    cases found with
    | some document => exact alike_reply alike _
    | none => exact alike_refuse alike _
  | delete id =>
    have deleted := alike.store.delete seen id
    refine alike_next (alike_recordWrite alike _ deleted) fun done left right alike => ?_
    split
    · exact ⟨rfl, alike⟩
    · exact alike_refuse alike _
  | insert id format body =>
    refine alike_whenRead alike _ fun value => ?_
    exact alike_next (alike_recordWrite alike _ (alike.store.insert seen id value))
      fun _ _ _ alike => ⟨rfl, alike⟩
  | replace id format body =>
    refine alike_whenRead alike _ fun value => ?_
    have replaced := alike.store.replace seen id value
    refine alike_next (alike_recordWrite alike _ replaced) fun found left right alike => ?_
    cases found with
    | some document => exact ⟨rfl, alike⟩
    | none => exact alike_refuse alike _
  | find paging filter =>
    refine alike_whenRead alike _ fun selection => ?_
    refine alike_next (alike_record alike _ ?_) fun _ _ _ alike => alike_reply alike _
    simp only [same.find_eq codec]
  | search parameters => exact alike_replySearch seen alike parameters
  | explain search =>
    have compiler := alike.compiler
    refine ⟨?_, alike⟩
    simp only [perform, replyExplain, reply, explain, shownFilter, compiler]
  | count filter =>
    refine alike_next (alike_record alike _ ?_) fun _ _ _ alike => alike_reply alike _
    simp only [same.count_eq codec]
  | distinct field filter =>
    refine alike_next (alike_record alike _ ?_) fun _ _ _ alike => alike_reply alike _
    simp only [same.distinct_eq codec]
  | aggregate pipeline =>
    refine alike_next (alike_record alike _ ?_) fun _ _ _ alike => alike_reply alike _
    simp only [same.aggregate_eq codec]
  | insertMany body => exact alike_replyInsertMany seen alike _
  | insertCsv boundary body => exact alike_replyInsertMany seen alike _

end Alike

end Service

end DocumentGateway

import DocumentGateway.Proofs.Json.Parsed
import DocumentGateway.Proofs.Store.Codec
import DocumentGateway.Proofs.Store.SameCollection

/-!
# Documents that were inserted

A body that is read from a text is as regular as a document has to be, apart from numbers
that are not finite. So the document that is stored for it is got as it was stored, as far
as its floating-point numbers read back. Whatever identifier is chosen, it is not empty.
-/
namespace DocumentGateway

open Decimal (ReadsBack)

/-- The document that is stored for a body from a text is regular if the body is exact. -/
theorem regular_withId_of_ofText? {text : String} {members : Document}
    (read : Json.ofText? text = some (.object members)) (exact : (Json.object members).Exact)
    (id : String) : (Json.object (withId id members)).Regular Json.maxDepth := by
  obtain ⟨distinct, each⟩ := Json.members_of_ofText? read
  have kept : ∀ member ∈ members.filter (fun member => member.1 != "_id"),
      member.2.Regular (Json.maxDepth - 1) := by
    intro member inKept
    obtain ⟨inMembers, notId⟩ := List.mem_filter.mp inKept
    refine each member inMembers fun x inValue => ReadsBack.isFinite ?_
    exact exact members rfl member inMembers (by simpa using notId) x inValue
  have others : (Json.object (members.filter fun member => member.1 != "_id")).Regular
      Json.maxDepth :=
    .object (distinct.sublist (List.filter_sublist.map Prod.fst)) kept
  simpa [withId, List.filter_filter] using regular_withId others id

namespace DocumentStore

/-- A document that is stored for an exact body is got as it was stored. -/
theorem get_of_stored {store : DocumentStore} {database collection id text : String}
    {members : Document} (read : Json.ofText? text = some (.object members))
    (exact : (Json.object members).Exact)
    (checked : checkedAddress database collection = .ok (address database collection))
    (stored : store.backend.get? (address database collection) id =
      some (store.compression.encode (withId id members))) :
    store.get database collection id = .ok (some (withId id members)) := by
  have regular := regular_withId_of_ofText? read exact id
  have reread := (store.compression.reread_eq_self_iff regular).mpr
    ((Json.exact_iff members id).mp exact)
  rw [Compression.reread] at reread
  rw [get_of_checked checked, stored, Option.map_some, reread]
  rfl

/-- An identifier that is accepted is not empty. -/
theorem nonempty_of_validateId {id : String} (accepted : validateId id = .ok ()) : id ≠ "" := by
  rintro rfl
  cases accepted

/-- The identifier of a new document is not empty, unless the spare one is. -/
theorem chooseId_nonempty {given : Option String} {document : Document} {spare id : String}
    (chosen : chooseId given document spare = .ok id) (supplied : spare ≠ "") : id ≠ "" := by
  cases given with
  | some asked =>
    obtain ⟨_, accepted, rfl⟩ := map_eq_ok_iff.mp chosen
    exact nonempty_of_validateId accepted
  | none =>
    obtain ⟨own, brought, rfl⟩ := map_eq_ok_iff.mp chosen
    cases own with
    | none => exact supplied
    | some asked =>
      unfold ownId at brought
      split at brought
      · cases brought
      · cases brought
      · obtain ⟨_, accepted, same⟩ := map_eq_ok_iff.mp brought
        obtain rfl := Option.some.inj same
        exact nonempty_of_validateId accepted
      · cases brought

end DocumentStore

end DocumentGateway

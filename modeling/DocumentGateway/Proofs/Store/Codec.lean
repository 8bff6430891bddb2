import DocumentGateway.Proofs.Json.RoundTrip
import DocumentGateway.Store.DocumentStore

/-!
# Documents through the codec

What is read of a stored document is what its text is read as. That is the document itself
exactly if each floating-point number in it is what its own text is read as. The packing
has no part in this.
-/
namespace DocumentGateway

open Decimal (ReadsBack)

namespace Compression

/-- What is read of a document that was stored. -/
def reread (compression : Compression) (document : Document) : Except StoreError Document :=
  compression.decode (compression.encode document)

/-- What a codec packs it unpacks to the same text. -/
theorem unpack?_pack (compression : Compression) (text : String) :
    compression.unpack? (compression.pack text) = some text := by
  cases codec : compression.codec <;> simp [pack, unpack?, codec]

/-- A document is read as its text is. -/
theorem reread_eq (compression : Compression) {document : Document}
    (regular : (Json.object document).Regular Json.maxDepth) :
    compression.reread document =
      match Json.rereadMembers? document with
      | some read => .ok read
      | none => .error (.codec "the stored text is not JSON") := by
  rw [reread, decode, encode, unpack?_pack, Option.bind_some, Json.ofText?_toText regular, Json.reread?]
  cases Json.rereadMembers? document <;> rfl

/-- A document is read as it was stored exactly if its floating-point numbers read back. -/
theorem reread_eq_self_iff (compression : Compression) {document : Document}
    (regular : (Json.object document).Regular Json.maxDepth) :
    compression.reread document = .ok document ↔
      ∀ member ∈ document, ∀ x ∈ member.2.reals, ReadsBack x := by
  have unchanged : Json.rereadMembers? document = some document ↔
      (Json.object document).reread? = some (.object document) := by
    simp [Json.reread?]
  rw [compression.reread_eq regular, ← Json.forall_reals_object, ← Json.reread?_eq_self_iff regular,
    ← unchanged]
  cases Json.rereadMembers? document <;> simp

/-- What one codec packed, only that codec unpacks. -/
theorem unpack?_pack_other {writer reader : Compression} (different : reader.codec ≠ writer.codec)
    (text : String) : reader.unpack? (writer.pack text) = none := by
  cases written : writer.codec <;> cases read : reader.codec <;>
    simp_all [pack, unpack?]

/-- Reading asks for the codec and not for the level. -/
theorem decode_eq_of_codec {writer reader : Compression} (same : reader.codec = writer.codec) :
    reader.decode = writer.decode := by
  funext stored
  simp only [decode, unpack?, same]

/-- A stored document is read back, with the order of its keys at every level, exactly if it
is read with the codec that it was written with and each floating-point number in it is what
its own text is read as. -/
theorem decode_encode_iff (writer reader : Compression) {document : Document}
    (regular : (Json.object document).Regular Json.maxDepth) :
    reader.decode (writer.encode document) = .ok document ↔
      reader.codec = writer.codec ∧ ∀ x ∈ (Json.object document).reals, ReadsBack x := by
  rw [Json.forall_reals_object, ← writer.reread_eq_self_iff regular, reread]
  by_cases same : reader.codec = writer.codec
  · rw [decode_eq_of_codec same]
    exact (and_iff_right same).symm
  · have refused : reader.decode (writer.encode document) =
        .error (.codec "the stored text is not JSON") := by
      rw [decode, encode, unpack?_pack_other same]
      rfl
    simp [refused, same]

/-- A document with escapes in its strings, numbers of every kind at their bounds, and objects
and arrays inside each other is read back with another level. -/
theorem decode_encode_nested :
    let document : Document :=
      [("z", .array [.number (.integer (2 ^ 64 - 1)), .number (.integer (-2 ^ 63)),
          .number (.real 1.5), .number (.real (-0.1)), .array []]),
        ("a\"\n\x01\u0434", .object [("b", .null), ("a", .string "\\\x7f\t")]),
        ("", .bool true)]
    (Json.object document).Regular Json.maxDepth ∧
      Compression.decode ⟨.zstd, 22⟩ (Compression.encode ⟨.zstd, 1⟩ document) = .ok document := by
  intro document
  have regular : (Json.object document).Regular Json.maxDepth := by
    refine .object (by decide) fun member inDocument => ?_
    simp only [document, List.mem_cons, List.not_mem_nil, or_false] at inDocument
    rcases inDocument with rfl | rfl | rfl
    · refine .array fun item inArray => ?_
      simp only [List.mem_cons, List.not_mem_nil, or_false] at inArray
      rcases inArray with rfl | rfl | rfl | rfl | rfl
      · exact .number _ (by decide)
      · exact .number _ (by decide)
      · exact .number _ (by decide)
      · exact .number _ (by decide)
      · exact .array fun item inEmpty => absurd inEmpty List.not_mem_nil
    · refine .object (by decide) fun inner inObject => ?_
      simp only [List.mem_cons, List.not_mem_nil, or_false] at inObject
      rcases inObject with rfl | rfl
      · exact .null _
      · exact .string _ _
    · exact .bool _ _
  refine ⟨regular, (decode_encode_iff ⟨.zstd, 1⟩ ⟨.zstd, 22⟩ regular).mpr ⟨rfl, ?_⟩⟩
  have floats : (Json.object document).reals = [1.5, -0.1] := rfl
  rw [floats]
  simp only [List.mem_cons, List.not_mem_nil, or_false, forall_eq_or_imp, forall_eq]
  exact ⟨by rfl, by rfl⟩

end Compression

/-! ## Documents with their identifiers -/

/-- A document with its identifier put in is as regular as it was before. -/
theorem regular_withId {levels : Nat} {members : Document}
    (regular : (Json.object members).Regular levels) (id : String) :
    (Json.object (withId id members)).Regular levels := by
  cases regular with
  | @object levels _ distinct each =>
    refine .object ?_ fun member inDocument => ?_
    · have others : (Keyed.keys (members.filter fun member => member.1 != "_id")).Nodup :=
        distinct.sublist (List.filter_sublist.map Prod.fst)
      refine List.nodup_cons.mpr ⟨fun present => ?_, others⟩
      obtain ⟨member, kept, key⟩ := List.mem_map.mp present
      have different : member.1 ≠ "_id" := by simpa using (List.mem_filter.mp kept).2
      exact different key
    · rcases List.mem_cons.mp inDocument with rfl | kept
      · exact .string levels id
      · exact each member (List.mem_filter.mp kept).1

/-- The floating-point numbers that are stored of a body read back. What stands under the
identifier's key is not stored. -/
def Json.Exact (body : Json) : Prop :=
  ∀ members, body = .object members → ∀ member ∈ members, member.1 ≠ "_id" →
    ∀ x ∈ member.2.reals, ReadsBack x

/-- A body is exact if the floating-point numbers of its document with an identifier read
back. -/
theorem Json.exact_iff (members : Document) (id : String) :
    (Json.object members).Exact ↔
      ∀ member ∈ withId id members, ∀ x ∈ member.2.reals, ReadsBack x := by
  have noReals : (Json.string id).reals = [] := by simp [Json.reals]
  rw [withId, List.forall_mem_cons]
  constructor
  · intro numbersKept
    refine ⟨by simp [noReals], fun member kept => ?_⟩
    obtain ⟨inMembers, notId⟩ := List.mem_filter.mp kept
    exact numbersKept members rfl member inMembers (by simpa using notId)
  · rintro ⟨-, others⟩ _ same member inMembers notId
    obtain rfl := Json.object.inj same
    exact others member (List.mem_filter.mpr ⟨inMembers, by simpa using notId⟩)

/-- The document stored for a body is read as it was exactly if the body is exact. -/
theorem Compression.reread_withId_iff (compression : Compression) {members : Document}
    (regular : (Json.object members).Regular Json.maxDepth) (id : String) :
    compression.reread (withId id members) = .ok (withId id members) ↔
      (Json.object members).Exact := by
  rw [compression.reread_eq_self_iff (regular_withId regular id), Json.exact_iff members id]

end DocumentGateway

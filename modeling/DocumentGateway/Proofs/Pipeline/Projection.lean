import DocumentGateway.Pipeline.Reader
import DocumentGateway.Proofs.Except
import DocumentGateway.Proofs.Json.Path
import DocumentGateway.Proofs.Text.Cut

/-!
# Projections

A projection is read as the row of paths that its specification flags in the way of its mode,
and applied to a document one path after another. Keeping copies them into an empty document,
so what it makes is an excerpt of the document that has everything at the kept paths; it reads
the document at these paths only, and doing it again changes nothing. Dropping removes them
one by one. A dropped path that passes an array of the document is not removed, as removal
follows members only.
-/
namespace DocumentGateway

open Json

/-! ## Reading a specification -/

/-- A specification gives a flag to a field. -/
def Flagged (members : Document) (flag : Bool) (field : String) : Prop :=
  (Keyed.get? field members).bind projectionFlag? = some flag

/-- The paths that a projection keeps or drops, as its mode is. -/
def Projection.listed (projection : Projection) : List String :=
  if projection.keepId = projection.keeps then "_id" :: projection.fields else projection.fields

/-- The fields of a projection are those of its specification, and all but the identifier have
the flag that is the mode at last. -/
theorem readProjectionFields_ok {members : Document} {start projection : Projection}
    {mode last : Option Bool} (distinct : (Keyed.keys members).Nodup)
    (read : readProjectionFields members start mode = .ok (projection, last)) :
    projection.fields = start.fields ++ (Keyed.keys members).filter (· ≠ "_id") ∧
      projection.keepId = ((Keyed.get? "_id" members).bind projectionFlag?).getD start.keepId ∧
      (∀ flag, mode = some flag → last = some flag) ∧
      ∀ member ∈ members, ∃ flag, projectionFlag? member.2 = some flag ∧
        (member.1 ≠ "_id" → last = some flag) := by
  induction members generalizing start mode with
  | nil =>
    obtain ⟨rfl, rfl⟩ := Prod.mk.inj (Except.ok.inj read)
    simp [Keyed.keys, Keyed.get?]
  | cons member rest inductionHypothesis =>
    obtain ⟨field, value⟩ := member
    obtain ⟨fresh, distinctRest⟩ := List.nodup_cons.mp distinct
    rw [readProjectionFields] at read
    cases flagged : projectionFlag? value with
    | none => simp [flagged] at read
    | some flag =>
      simp only [flagged] at read
      by_cases identifier : field = "_id"
      · subst identifier
        have later : Keyed.get? "_id" rest = none := Keyed.get?_absent fresh
        rw [if_pos rfl] at read
        obtain ⟨fields, keepId, sameMode, each⟩ := inductionHypothesis distinctRest read
        refine ⟨?_, ?_, sameMode, ?_⟩
        · simpa [Keyed.keys] using fields
        · simpa [Keyed.get?, later, flagged] using keepId
        · exact List.forall_mem_cons.mpr ⟨⟨flag, flagged, absurd rfl⟩, each⟩
      · rw [if_neg identifier] at read
        split at read
        · cases read
        · rename_i agrees
          obtain ⟨fields, keepId, sameMode, each⟩ := inductionHypothesis distinctRest read
          have lastFlag : last = some flag := sameMode flag rfl
          refine ⟨?_, ?_, ?_, ?_⟩
          · simpa [Keyed.keys, identifier] using fields
          · simpa [Keyed.get?, identifier] using keepId
          · rintro earlier rfl
            have agreed : earlier = flag := by simpa using agrees
            rw [lastFlag, agreed]
          · exact List.forall_mem_cons.mpr ⟨⟨flag, flagged, fun _ => lastFlag⟩, each⟩

/-- All fields but the identifier have the flag that is the mode of the projection. -/
theorem readProjection_ok {members : Document} {projection : Projection}
    (distinct : (Keyed.keys members).Nodup)
    (read : readProjection (.object members) = .ok projection) :
    projection.fields = (Keyed.keys members).filter (· ≠ "_id") ∧
      projection.keepId = ((Keyed.get? "_id" members).bind projectionFlag?).getD true ∧
      ∀ member ∈ members, ∃ flag, projectionFlag? member.2 = some flag ∧
        (member.1 ≠ "_id" → flag = projection.keeps) := by
  cases members with
  | nil => cases read
  | cons member rest =>
    obtain ⟨⟨start, last⟩, readFields, rfl⟩ := map_eq_ok_iff.mp read
    obtain ⟨fields, keepId, -, each⟩ := readProjectionFields_ok distinct readFields
    refine ⟨fields, keepId, ?_⟩
    intro other inMembers
    obtain ⟨flag, flagged, isMode⟩ := each other inMembers
    refine ⟨flag, flagged, ?_⟩
    intro named
    simp [isMode named]

/-- The identifier is among the listed paths exactly if it is treated as the other listed paths
are. -/
theorem id_mem_listed_iff {projection : Projection} (apart : "_id" ∉ projection.fields) :
    "_id" ∈ projection.listed ↔ projection.keepId = projection.keeps := by
  unfold Projection.listed
  split <;> simp_all

/-- The paths that a projection keeps or drops are those that its specification flags so. The
identifier is kept also if the specification does not name it. -/
theorem mem_listed_iff {members : Document} {projection : Projection}
    (distinct : (Keyed.keys members).Nodup)
    (read : readProjection (.object members) = .ok projection) (field : String) :
    field ∈ projection.listed ↔ Flagged members projection.keeps field ∨
      field = "_id" ∧ Keyed.get? "_id" members = none ∧ projection.keeps = true := by
  obtain ⟨fields, keepId, each⟩ := readProjection_ok distinct read
  by_cases identifier : field = "_id"
  · subst identifier
    rw [id_mem_listed_iff (by simp [fields]), keepId, Flagged]
    cases held : Keyed.get? "_id" members with
    | none => simp
    | some value =>
      obtain ⟨flag, flagged, -⟩ := each ("_id", value) (Keyed.mem_of_get? held)
      simp [flagged]
  · have listed : field ∈ projection.listed ↔ Keyed.contains field members = true := by
      rw [Keyed.contains_iff]
      unfold Projection.listed
      split <;> simp [fields, identifier]
    rw [listed, Keyed.contains, Flagged]
    cases held : Keyed.get? field members with
    | none => simp [identifier]
    | some value =>
      obtain ⟨flag, flagged, isMode⟩ := each (field, value) (Keyed.mem_of_get? held)
      simp [flagged, isMode identifier]

/-! ## One path after another -/

/-- The identifier is a path of one segment. -/
theorem segments_id : segments "_id" = ["_id"] := by decide

/-- Every path has a segment, even the empty one. -/
theorem segments_ne_nil (path : String) : segments path ≠ [] := by
  intro empty
  have one : (Text.pieces '.' path.toList).length = 0 := by
    simpa [segments, Text.split] using congrArg List.length empty
  rw [Text.length_pieces] at one
  omega

/-- The path of the identifier leads to the member of this name. -/
theorem resolve_id (document : Document) : resolve document "_id" = Keyed.get? "_id" document := by
  rw [resolve, segments_id, follow_object]
  cases Keyed.get? "_id" document <;> rfl

/-- The identifier is kept like any other path. -/
theorem Projection.apply_keeping {projection : Projection} (keeps : projection.keeps = true)
    (document : Document) :
    projection.apply document = projection.listed.foldl (copyField document) [] := by
  have identifier : copyField document [] "_id" = idMember document := by
    rw [copyField, resolve_id, idMember, segments_id]
    cases Keyed.get? "_id" document <;> rfl
  cases keepId : projection.keepId <;>
    simp [apply, listed, keeps, keepId, identifier]

/-- Removes several paths, one after another. -/
def removeFields (fields : List String) (document : Document) : Document :=
  fields.foldl (fun kept field => removePath (segments field) kept) document

/-- The identifier is dropped like any other path. -/
theorem Projection.apply_dropping {projection : Projection} (drops : projection.keeps = false)
    (document : Document) :
    projection.apply document = removeFields projection.listed document := by
  have identifier : removePath (segments "_id") document = Keyed.swapRemove "_id" document := by
    rw [segments_id, removePath]
  cases keepId : projection.keepId <;>
    simp [apply, removeFields, listed, drops, keepId, identifier]

/-! ## Keeping -/

/-- Copying keeps an excerpt of the document one. -/
theorem excerpt_copyField {document kept : Document}
    (excerpt : Excerpt (.object document) (.object kept)) (field : String) :
    Excerpt (.object document) (.object (Projection.copyField document kept field)) := by
  unfold Projection.copyField
  split
  · rename_i value found
    exact excerpt.setPath found
  · exact excerpt

/-- What is copied stays what it is in the document through all further copies. -/
theorem resolve_copyFields {document : Document} (fields : List String) {kept : Document}
    {path : String} {value : Json} (found : resolve document path = some value)
    (there : resolve kept path = some value) :
    resolve (fields.foldl (Projection.copyField document) kept) path = some value := by
  induction fields generalizing kept with
  | nil => exact there
  | cons field rest inductionHypothesis =>
    apply inductionHypothesis
    unfold Projection.copyField
    split
    · rename_i copied copiedFound
      exact follow_setPath_kept copiedFound found there
    · exact there

/-- Copying several fields makes an excerpt of the document that has each of them. -/
theorem copyFields_spec {document : Document} (fields : List String) {kept : Document}
    (excerpt : Excerpt (.object document) (.object kept)) :
    Excerpt (.object document) (.object (fields.foldl (Projection.copyField document) kept)) ∧
      ∀ field ∈ fields, ∀ value, resolve document field = some value →
        resolve (fields.foldl (Projection.copyField document) kept) field = some value := by
  induction fields generalizing kept with
  | nil => exact ⟨excerpt, fun _ member => absurd member List.not_mem_nil⟩
  | cons first rest inductionHypothesis =>
    obtain ⟨excerptLater, copiedLater⟩ := inductionHypothesis (excerpt_copyField excerpt first)
    refine ⟨excerptLater, ?_⟩
    intro field member value found
    rcases List.mem_cons.mp member with rfl | later
    · apply resolve_copyFields rest found
      rw [Projection.copyField, found]
      exact follow_setPath excerpt found (segments_ne_nil field)
    · exact copiedLater field later value found

namespace Projection

variable {projection : Projection}

/-- A kept path leads to the same as in the document, and where any path leads it leads in the
document. -/
theorem resolve_apply_keeping (keeps : projection.keeps = true) (document : Document) :
    (∀ field ∈ projection.listed,
      resolve (projection.apply document) field = resolve document field) ∧
      ∀ path, resolve (projection.apply document) path ≠ none → resolve document path ≠ none := by
  rw [apply_keeping keeps]
  obtain ⟨excerpt, copied⟩ := copyFields_spec projection.listed (excerpt_empty (.object document))
  have within : ∀ path value,
      resolve (projection.listed.foldl (copyField document) []) path = some value →
        resolve document path ≠ none := by
    intro path value led
    obtain ⟨whole, found, -⟩ := excerpt (segments path) value led
    simp [resolve, found]
  constructor
  · intro field member
    cases found : resolve document field with
    | some value => exact copied field member value found
    | none =>
      rw [Option.eq_none_iff_forall_ne_some]
      intro value led
      exact within field value led found
  · intro path leads
    obtain ⟨value, led⟩ := Option.ne_none_iff_exists'.mp leads
    exact within path value led

/-- A projection that keeps reads a document at the kept paths only. -/
theorem apply_keeping_congr (keeps : projection.keeps = true) {left right : Document}
    (same : ∀ field ∈ projection.listed, resolve left field = resolve right field) :
    projection.apply left = projection.apply right := by
  rw [apply_keeping keeps, apply_keeping keeps]
  apply List.foldl_ext
  intro kept field member
  rw [copyField, copyField, same field member]

end Projection

/-- A projection that keeps fields is faithful: at every field that its specification flags as
kept it has what the document has, it has nothing that the document does not have, and doing it
again changes nothing. -/
theorem keeping_projection_faithful {members : Document} {projection : Projection}
    (distinct : (Keyed.keys members).Nodup)
    (read : readProjection (.object members) = .ok projection) (keeps : projection.keeps = true)
    (document : Document) :
    (∀ field, Flagged members true field →
      resolve (projection.apply document) field = resolve document field) ∧
      (∀ path, resolve (projection.apply document) path ≠ none → resolve document path ≠ none) ∧
      projection.apply (projection.apply document) = projection.apply document := by
  obtain ⟨same, within⟩ := Projection.resolve_apply_keeping keeps document
  refine ⟨?_, within, Projection.apply_keeping_congr keeps same⟩
  intro field flagged
  apply same field
  rw [mem_listed_iff distinct read, keeps]
  exact .inl flagged

/-- Two fields are kept of which one begins the other, the one of them within an array. -/
theorem keeping_projection_faithful_within_array :
    let members : Document :=
      [("_id", .bool false), ("a.1", .bool true), ("b.c", .bool true), ("b", .bool true)]
    let projection : Projection := ⟨["a.1", "b.c", "b"], true, false⟩
    let document : Document :=
      [("_id", .string "x"), ("a", .array [.null, .bool true]),
        ("b", .object [("d", .null), ("c", .array [])])]
    (Keyed.keys members).Nodup ∧ readProjection (.object members) = .ok projection ∧
      projection.keeps = true ∧
      resolve (projection.apply document) "a.1" = resolve document "a.1" ∧
      resolve (projection.apply document) "b.c" = resolve document "b.c" ∧
      projection.apply (projection.apply document) = projection.apply document := by
  intro members projection document
  have distinct : (Keyed.keys members).Nodup := by decide
  have read : readProjection (.object members) = .ok projection := by rfl
  obtain ⟨same, -, again⟩ := keeping_projection_faithful distinct read rfl document
  exact ⟨distinct, read, rfl, same "a.1" rfl, same "b.c" rfl, again⟩

/-! ## Dropping -/

/-- After several removals a path leads nowhere exactly if it did before, or if it begins with
one of the removed paths that leads through members only. An earlier removal can take the way
from a later one only where it takes it from the path as well. -/
theorem resolve_removeFields_eq_none_iff (fields : List String) {document : Document}
    (distinct : (object document).Distinct) (path : String) :
    resolve (removeFields fields document) path = none ↔ resolve document path = none ∨
      ∃ field ∈ fields, segments field <+: segments path ∧
        descend (segments field) (.object document) ≠ none := by
  induction fields generalizing document with
  | nil => simp [removeFields]
  | cons first rest inductionHypothesis =>
    -- the first removal, for the path itself and for the ways of the later removals
    have led : resolve (removePath (segments first) document) path = none ↔
        resolve document path = none ∨ segments first <+: segments path ∧
          descend (segments first) (.object document) ≠ none :=
      walks_follow.removePath_eq_none_iff (segments_ne_nil first) distinct
    have way : ∀ field,
        descend (segments field) (.object (removePath (segments first) document)) = none ↔
          descend (segments field) (.object document) = none ∨ segments first <+: segments field ∧
            descend (segments first) (.object document) ≠ none :=
      fun field => walks_descend.removePath_eq_none_iff (segments_ne_nil first) distinct
    have later := inductionHypothesis (distinct_removePath distinct (segments first))
    rw [led] at later
    refine later.trans ?_
    constructor
    · rintro ((before | taken) | ⟨field, member, begins, stays⟩)
      · exact .inl before
      · exact .inr ⟨first, List.mem_cons_self .., taken⟩
      · exact .inr ⟨field, List.mem_cons_of_mem first member, begins,
          fun nowhere => stays ((way field).mpr (.inl nowhere))⟩
    · rintro (before | ⟨field, member, begins, leads⟩)
      · exact .inl (.inl before)
      · rcases List.mem_cons.mp member with rfl | inRest
        · exact .inl (.inr ⟨begins, leads⟩)
        · by_cases taken : segments first <+: segments field ∧
              descend (segments first) (.object document) ≠ none
          · exact .inl (.inr ⟨taken.1.trans begins, taken.2⟩)
          · exact .inr ⟨field, inRest, begins, fun nowhere =>
              ((way field).mp nowhere).elim leads taken⟩

/-- Removals do not touch a path that parts from all removed ones. -/
theorem resolve_removeFields_apart {fields : List String} {document : Document}
    (distinct : (object document).Distinct) {path : String}
    (apart : ∀ field ∈ fields, ¬ segments field <+: segments path ∧
      ¬ segments path <+: segments field) :
    resolve (removeFields fields document) path = resolve document path := by
  induction fields generalizing document with
  | nil => rfl
  | cons first rest inductionHypothesis =>
    obtain ⟨apartFirst, apartRest⟩ := List.forall_mem_cons.mp apart
    have kept := inductionHypothesis (distinct_removePath distinct (segments first)) apartRest
    exact kept.trans (follow_removePath_apart distinct apartFirst.1 apartFirst.2)

/-- A projection that drops fields removes them, and nothing else, as far as members lead to them:
a path leads nowhere after it exactly if it did before or begins with a dropped path that passes no
array; the identifier is gone if it is dropped; and paths that part from the dropped ones lead to
what they led to before. -/
theorem dropping_projection_removes {members : Document} {projection : Projection}
    (distinct : (Keyed.keys members).Nodup)
    (read : readProjection (.object members) = .ok projection) (drops : projection.keeps = false)
    {document : Document} (distinctDocument : (object document).Distinct) :
    (∀ path, resolve (projection.apply document) path = none ↔
      resolve document path = none ∨ ∃ field, Flagged members false field ∧
        segments field <+: segments path ∧ ¬ PassesArray (segments field) (.object document)) ∧
      (Flagged members false "_id" → Keyed.get? "_id" (projection.apply document) = none) ∧
      ∀ path, (∀ field, Flagged members false field →
          ¬ segments field <+: segments path ∧ ¬ segments path <+: segments field) →
        resolve (projection.apply document) path = resolve document path := by
  have listed : ∀ field, field ∈ projection.listed ↔ Flagged members false field := by
    intro field
    simpa [drops] using mem_listed_iff distinct read field
  rw [Projection.apply_dropping drops]
  have gone : ∀ path, resolve (removeFields projection.listed document) path = none ↔
      resolve document path = none ∨ ∃ field, Flagged members false field ∧
        segments field <+: segments path ∧ ¬ PassesArray (segments field) (.object document) := by
    intro path
    rw [resolve_removeFields_eq_none_iff _ distinctDocument]
    refine or_congr_right' fun leads => ?_
    constructor
    · rintro ⟨field, member, begins, way⟩
      exact ⟨field, (listed field).mp member, begins, (descend_ne_none_iff begins leads).mp way⟩
    · rintro ⟨field, flagged, begins, way⟩
      exact ⟨field, (listed field).mpr flagged, begins, (descend_ne_none_iff begins leads).mpr way⟩
  refine ⟨gone, ?_, ?_⟩
  · intro flagged
    rw [← resolve_id]
    have way : ¬ PassesArray (segments "_id") (.object document) :=
      segments_id ▸ not_passesArray_member "_id" document
    exact (gone "_id").mpr (.inr ⟨"_id", flagged, List.prefix_refl _, way⟩)
  · intro path apart
    apply resolve_removeFields_apart distinctDocument
    intro field member
    exact apart field ((listed field).mp member)

/-- A nested field is dropped together with the identifier, and another path into an array. -/
theorem dropping_projection_removes_nested :
    let members : Document := [("a.b", .bool false), ("_id", .bool false), ("l.0", .bool false)]
    let projection : Projection := ⟨["a.b", "l.0"], false, false⟩
    let document : Document :=
      [("_id", .string "x"), ("a", .object [("b", .null), ("c", .bool true), ("d", .string "y")]),
        ("l", .array [.null])]
    (Keyed.keys members).Nodup ∧ readProjection (.object members) = .ok projection ∧
      projection.keeps = false ∧ (object document).Distinct ∧
      resolve (projection.apply document) "a.b" = none ∧
      Keyed.get? "_id" (projection.apply document) = none ∧
      resolve (projection.apply document) "a.d" = resolve document "a.d" := by
  intro members projection document
  have distinct : (Keyed.keys members).Nodup := by decide
  have read : readProjection (.object members) = .ok projection := by rfl
  have inner : (object [("b", .null), ("c", .bool true), ("d", .string "y")]).Distinct :=
    .object (by decide) (List.forall_mem_cons.mpr ⟨.null, List.forall_mem_cons.mpr
      ⟨.bool true, List.forall_mem_singleton.mpr (.string "y")⟩⟩)
  have distinctDocument : (object document).Distinct :=
    .object (by decide) (List.forall_mem_cons.mpr ⟨.string "x", List.forall_mem_cons.mpr
      ⟨inner, List.forall_mem_singleton.mpr (.array (List.forall_mem_singleton.mpr .null))⟩⟩)
  obtain ⟨gone, noId, kept⟩ := dropping_projection_removes distinct read rfl distinctDocument
  refine ⟨distinct, read, rfl, distinctDocument, ?_, ?_, ?_⟩
  · have throughMembers : ¬ PassesArray (segments "a.b") (.object document) :=
      (descend_ne_none_iff (List.prefix_refl _) (by decide)).mp (by decide)
    exact (gone "a.b").mpr (.inr ⟨"a.b", rfl, List.prefix_refl _, throughMembers⟩)
  · exact noId rfl
  · apply kept "a.d"
    intro field flagged
    obtain ⟨value, held, -⟩ := Option.bind_eq_some_iff.mp flagged
    have named : field ∈ Keyed.keys members := List.mem_map_of_mem (Keyed.mem_of_get? held)
    simp only [members, Keyed.keys, List.map_cons, List.map_nil, List.mem_cons, List.not_mem_nil,
      or_false] at named
    rcases named with rfl | rfl | rfl <;> decide

/-- A field of an object within an array is not dropped, although its path leads to it. -/
theorem dropped_field_within_array_stays :
    let members : Document := [("a.0.b", .bool false)]
    let document : Document := [("_id", .string "1"), ("a", .array
      [.object [("b", .number (.integer 1)), ("c", .number (.integer 2))]])]
    ∃ projection, readProjection (.object members) = .ok projection ∧ projection.keeps = false ∧
      Flagged members false "a.0.b" ∧
      resolve (projection.apply document) "a.0.b" = some (.number (.integer 1)) := by
  intro members document
  refine ⟨⟨["a.0.b"], false, true⟩, rfl, rfl, rfl, ?_⟩
  rfl

end DocumentGateway

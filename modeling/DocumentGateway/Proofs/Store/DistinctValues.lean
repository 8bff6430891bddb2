import DocumentGateway.Proofs.Pipeline.Grouping
import DocumentGateway.Proofs.Store.ReadPaths

/-!
# Distinct values of a collection

The distinct values at a path are the first occurrences among the values that the matching
documents contribute, one document after another in the order of their identifiers. Grouping
the matching documents by the path opens its groups in the same way, so where each of them
contributes the value at the path itself, the keys of the groups are the distinct values.
-/
namespace DocumentGateway

open Json (FirstOccurrences)

namespace DocumentStore

/-! ## Contributed values -/

/-- A value stands at a path of a document: it is found there and is no array, or it is an item of
the array that is found there. -/
inductive StandsAt (field : String) (document : Document) : Json → Prop where
  | alone {value : Json} (found : Json.resolve document field = some value)
    (noArray : ∀ items, value ≠ .array items) : StandsAt field document value
  | item {items : List Json} {value : Json}
    (found : Json.resolve document field = some (.array items)) (member : value ∈ items) :
    StandsAt field document value

/-- A value that is no array is contributed as it is. -/
theorem contributed_alone {field : String} {document : Document} {value : Json}
    (found : Json.resolve document field = some value) (noArray : ∀ items, value ≠ .array items) :
    contributed field document = [value] := by
  rw [contributed, found]
  cases value with
  | array items => exact absurd rfl (noArray items)
  | _ => rfl

/-- A document contributes what stands at the path. -/
theorem mem_contributed_iff {field : String} {document : Document} {value : Json} :
    value ∈ contributed field document ↔ StandsAt field document value := by
  constructor
  · intro member
    unfold contributed at member
    split at member
    · rename_i items found
      exact .item found member
    · rename_i other noArray found
      obtain rfl := List.mem_singleton.mp member
      exact .alone found fun items same => noArray items same
    · cases member
  · rintro (⟨found, noArray⟩ | ⟨found, member⟩)
    · rw [contributed_alone found noArray]
      exact List.mem_singleton_self value
    · rw [contributed, found]
      exact member

/-- What stands in a document that holds each key once holds each key once. -/
theorem distinct_of_standsAt {field : String} {document : Document} {value : Json}
    (distinct : (Json.object document).Distinct) (stands : StandsAt field document value) :
    value.Distinct := by
  cases stands with
  | alone found => exact Json.distinct_follow distinct found
  | item found member =>
    obtain - | - | - | - | each := Json.distinct_follow distinct found
    exact each value member

/-- Values that are added one by one are listed by their first occurrences. -/
theorem firstOccurrences_addDistinct {values : List Json}
    (distinct : ∀ value ∈ values, value.Distinct) :
    FirstOccurrences values (values.foldl addDistinct []) := by
  induction values using List.reverseRecOn with
  | nil => exact .nil
  | append_singleton values value inductionHypothesis =>
    obtain ⟨before, here⟩ := List.forall_mem_append.mp distinct
    rw [List.foldl_append]
    exact (inductionHypothesis before).concat (List.forall_mem_singleton.mp here)

/-! ## Groups by the path -/

/-- The grouping of documents by the value at a path. -/
def groupingBy (field : String) : Grouping :=
  ⟨.field field, []⟩

/-- Groups are opened as values are listed. -/
theorem keys_groups (grouping : Grouping) (documents : List Document) :
    (grouping.groups documents).map Group.key =
      (documents.map grouping.keyOf).foldl addDistinct [] := by
  rw [List.foldl_map, Grouping.groups]
  refine (List.foldl_hom (List.map Group.key) ?_).symm
  intro groups document
  exact (keys_joinGroup (grouping.keyOf document) document groups).symm

/-- Where each document contributes what is found at the path, the groups have the keys that are
listed. -/
theorem groupingBy_apply {field : String} {documents : List Document}
    (alone : ∀ document ∈ documents, ∃ value, Json.resolve document field = some value ∧
      ∀ items, value ≠ .array items) :
    (groupingBy field).apply documents =
      ((documents.flatMap (contributed field)).foldl addDistinct []).map fun value =>
        [("_id", value)] := by
  have values : documents.flatMap (contributed field) =
      documents.map (groupingBy field).keyOf := by
    induction documents with
    | nil => rfl
    | cons document rest inductionHypothesis =>
      obtain ⟨⟨value, found, noArray⟩, later⟩ := List.forall_mem_cons.mp alone
      have key : (groupingBy field).keyOf document = value := by
        rw [Grouping.keyOf, groupingBy, Operand.eval, found, Option.getD_some]
      rw [List.flatMap_cons, List.map_cons, contributed_alone found noArray, key,
        inductionHypothesis later, List.singleton_append]
  rw [values, ← keys_groups, List.map_map]
  rfl

/-- The pipeline that matches documents and groups them by the value at a path. -/
def keyPipeline (filter : Json) (field : String) : Json :=
  .array [.object [("$match", filter)],
    .object [("$group", .object [("_id", .string ("$" ++ field))])]]

/-- A text with a dollar sign in front of a name is read as the field of this name. -/
theorem operand_ofJson_field {field : String} (nonempty : field ≠ "") :
    Operand.ofJson (.string ("$" ++ field)) = .field field := by
  cases letters : field.toList with
  | nil => exact absurd (String.toList_eq_nil_iff.mp letters) nonempty
  | cons letter rest =>
    have whole : ("$" ++ field).toList = '$' :: letter :: rest := by
      rw [String.toList_append, letters]
      rfl
    have back : String.ofList (letter :: rest) = field := by
      rw [← letters, String.ofList_toList]
    simp [Operand.ofJson, whole, back]

/-- The pipeline is accepted with every accepted filter. -/
theorem read_keyPipeline {value : Json} {filter : Filter} {field : String}
    (accepted : readStoreFilter value = .ok filter) (nonempty : field ≠ "") :
    readStorePipeline (keyPipeline value field) =
      .ok [.select filter, .group (groupingBy field)] := by
  have matching := Stage.ofJson_match (mapError_eq_ok_iff.mp accepted)
  have grouping : Stage.ofJson (.object [("$group", .object [("_id", .string ("$" ++ field))])]) =
      .ok (.group (groupingBy field)) := by
    rw [groupingBy, ← operand_ofJson_field nonempty]
    rfl
  exact mapError_eq_ok_iff.mpr (readStages_eq (.cons matching (.cons grouping .nil)) 0)

/-! ## The distinct values of a collection -/

variable {store : DocumentStore}

/-- The distinct values are listed of the documents that are read. -/
theorem distinct_eq_getAll (store : DocumentStore) (database collection field : String)
    (filter : Filter) :
    store.distinct database collection field filter =
      (store.getAll database collection).map fun documents =>
        ((documents.filter filter.matches).flatMap (contributed field)).foldl addDistinct [] := by
  unfold distinct getAll
  exact bind_map_ok _

/-- Documents that are inserted under `b` and then under `a` are read in the order of these, as
they are if their floating-point numbers read back. -/
theorem getAll_insert_insert (compression : Compression) (ids : IdSupply)
    {earlier later : Document}
    (regular : ∀ members ∈ [earlier, later], (Json.object members).Regular Json.maxDepth)
    (exactly : ∀ members ∈ [earlier, later], (Json.object members).Exact) :
    let opened : DocumentStore :=
      { backend := .memory .empty, compression, immutable := .empty, ids }
    let store := (opened.after (.call (.insert "d" "c" (some "b") (.object later)))).after
      (.call (.insert "d" "c" (some "a") (.object earlier)))
    store.getAll "d" "c" = .ok [withId "a" earlier, withId "b" later] := by
  intro opened store
  have space : checkedAddress "d" "c" = .ok "d/c" := rfl
  have writable : ImmutableSet.empty.check "d" "c" = .ok () := rfl
  have named : ∀ id ∈ ["a", "b"], validateId id = .ok () := by decide
  have placed : ∀ first second : Stored,
      ((SortedMap.empty.insert "b" second).insert "a" first).values = [first, second] := by
    intro first second
    have order : ("a" : String) < "b" := by
      rw [String.lt_iff]
      decide
    change (SortedMap.place "a" first [("b", second)]).map Prod.snd = [first, second]
    rw [SortedMap.place, if_pos order]
    rfl
  have stored : store.backend.values "d/c" =
      [compression.encode (withId "a" earlier), compression.encode (withId "b" later)] := by
    simp [store, opened, after, perform, insert, prepareInsert, writableAddress, setAside,
      documentOfBody, chooseId, bind, Except.bind, Except.map, space, writable, named,
      Backend.insertNew, Backend.values, NestedTable.insertNew, NestedTable.empty,
      NestedTable.records, NestedTable.values, SortedMap.contains, placed]
  have settings : store.compression = compression := rfl
  have decoded : ∀ id, ∀ members ∈ [earlier, later],
      compression.decode (compression.encode (withId id members)) = .ok (withId id members) := by
    intro id members member
    exact (compression.reread_withId_iff (regular members member) id).mpr (exactly members member)
  rw [getAll, space]
  simp only [bind, Except.bind]
  rw [load, stored, settings, List.mapM_cons, List.mapM_cons, List.mapM_nil,
    decoded "a" earlier (by simp), decoded "b" later (by simp)]
  rfl

/-- In a store that can be reached, the distinct values at a path are the first occurrences among
what stands there in the matching documents, which are read in the order of their identifiers: no
two of them mean the same, and everything that stands at the path means the same as exactly one of
them. If the path is not empty and leads in every matching document to a value that is no array,
the pipeline that matches and groups by the path is accepted and shows them as identifiers, in their
order. Where the collection cannot be read, nothing is listed by either. -/
theorem distinct_lists_first_occurrences (reachable : store.Reachable)
    (database collection field : String) (filter : Filter) :
    match store.getAll database collection with
    | .error error => store.distinct database collection field filter = .error error ∧
        ∀ pipeline, store.aggregate database collection pipeline = .error error
    | .ok documents =>
      (∃ ids : List String, ids.Pairwise (· < ·) ∧
        documents.map (Keyed.get? "_id") = ids.map fun id => some (.string id)) ∧
      ∃ listed, store.distinct database collection field filter = .ok listed ∧
        FirstOccurrences ((documents.filter filter.matches).flatMap (contributed field)) listed ∧
        (∀ document ∈ documents, filter.matches document = true → ∀ value,
          StandsAt field document value →
            ∃! place : Fin listed.length, (listed.get place).same value = true) ∧
        (field ≠ "" →
          (∀ document ∈ documents, filter.matches document = true →
            ∃ value, Json.resolve document field = some value ∧ ∀ items, value ≠ .array items) →
          store.aggregate database collection [.select filter, .group (groupingBy field)] =
              .ok (listed.map fun value => [("_id", value)]) ∧
            ∀ written, readStoreFilter written = .ok filter →
              readStorePipeline (keyPipeline written field) =
                .ok [.select filter, .group (groupingBy field)]) := by
  rw [distinct_eq_getAll]
  cases read : store.getAll database collection with
  | error error =>
    refine ⟨rfl, ?_⟩
    intro pipeline
    rw [aggregate, read]
    rfl
  | ok documents =>
    have distinct : ∀ value ∈ (documents.filter filter.matches).flatMap (contributed field),
        value.Distinct := by
      intro value member
      obtain ⟨document, inMatching, contributes⟩ := List.mem_flatMap.mp member
      exact distinct_of_standsAt
        (getAll_distinct reachable read document (List.mem_filter.mp inMatching).1)
        (mem_contributed_iff.mp contributes)
    have occurrences := firstOccurrences_addDistinct distinct
    refine ⟨ids_of_getAll reachable read, _, rfl, occurrences, ?_, ?_⟩
    · intro document member holds value stands
      exact occurrences.existsUnique distinct (List.mem_flatMap.mpr
        ⟨document, List.mem_filter.mpr ⟨member, holds⟩, mem_contributed_iff.mpr stands⟩)
    · intro nonempty alone
      refine ⟨?_, fun written accepted => read_keyPipeline accepted nonempty⟩
      have aloneMatching : ∀ document ∈ documents.filter filter.matches,
          ∃ value, Json.resolve document field = some value ∧ ∀ items, value ≠ .array items := by
        intro document inMatching
        obtain ⟨member, holds⟩ := List.mem_filter.mp inMatching
        exact alone document member holds
      rw [aggregate, read, ← groupingBy_apply aloneMatching]
      rfl

/-- Two values that differ in the order of their keys are listed as one, and they are one group. -/
theorem distinct_lists_reordered_keys :
    let value : Json := .object [("x", .bool true), ("y", .null)]
    let again : Json := .object [("y", .null), ("x", .bool true)]
    let opened : DocumentStore :=
      { backend := .memory .empty, compression := {}, immutable := .empty, ids := ⟨0, toString⟩ }
    let store := (opened.after (.call (.insert "d" "c" (some "b") (.object [("k", again)])))).after
      (.call (.insert "d" "c" (some "a") (.object [("k", value)])))
    store.Reachable ∧ store.distinct "d" "c" "k" (.every []) = .ok [value] ∧
      FirstOccurrences [value, again] [value] ∧
      store.aggregate "d" "c" [.select (.every []), .group (groupingBy "k")] =
        .ok [[("_id", value)]] := by
  intro value again opened store
  have regular : ∀ members ∈ [[("k", value)], [("k", again)]],
      (Json.object members).Regular Json.maxDepth := by
    simp only [List.forall_mem_cons, List.not_mem_nil, false_implies, implies_true, and_true]
    constructor
    · refine .object (by decide) (List.forall_mem_singleton.mpr (.object (by decide) ?_))
      exact List.forall_mem_cons.mpr ⟨.bool _ _, List.forall_mem_singleton.mpr (.null _)⟩
    · refine .object (by decide) (List.forall_mem_singleton.mpr (.object (by decide) ?_))
      exact List.forall_mem_cons.mpr ⟨.null _, List.forall_mem_singleton.mpr (.bool _ _)⟩
  have exactly : ∀ members ∈ [[("k", value)], [("k", again)]], (Json.object members).Exact := by
    intro members member
    have noReals : (Json.object (withId "" members)).reals = [] := by
      simp only [List.mem_cons, List.not_mem_nil, or_false] at member
      rcases member with rfl | rfl <;> rfl
    rw [Json.exact_iff members "", ← Json.forall_reals_object, noReals]
    exact List.forall_mem_nil _
  have reachable : store.Reachable :=
    .operated
      (.operated (.opened (.inl rfl) {} .empty ⟨0, toString⟩) _
        (List.forall_mem_singleton.mpr ⟨_, regular [("k", again)] (by simp)⟩)) _
      (List.forall_mem_singleton.mpr ⟨_, regular [("k", value)] (by simp)⟩)
  have read : store.getAll "d" "c" = .ok [withId "a" [("k", value)], withId "b" [("k", again)]] :=
    getAll_insert_insert {} ⟨0, toString⟩ regular exactly
  have listing := distinct_lists_first_occurrences reachable "d" "c" "k" (.every [])
  rw [read] at listing
  obtain ⟨-, listed, distinct, occurrences, -, grouped⟩ := listing
  obtain rfl : [value] = listed := by
    rw [distinct_eq_getAll, read] at distinct
    exact Except.ok.inj distinct
  refine ⟨reachable, distinct, occurrences, (grouped (by decide) ?_).1⟩
  intro document member _
  simp only [List.mem_cons, List.not_mem_nil, or_false] at member
  rcases member with rfl | rfl
  · exact ⟨value, rfl, fun items => nofun⟩
  · exact ⟨again, rfl, fun items => nofun⟩

end DocumentStore

end DocumentGateway

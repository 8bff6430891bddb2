import DocumentGateway.Pipeline.Reader
import DocumentGateway.Proofs.Except
import DocumentGateway.Proofs.Json.Distinct
import DocumentGateway.Proofs.Json.FirstOccurrence
import DocumentGateway.Proofs.Json.Path
import Mathlib.Data.List.FinRange
import Mathlib.Data.List.Induction

/-!
# Groups of documents

A document joins the first group whose key means the same as its own, or opens a group at the
end. After any number of documents the keys of the groups are the first occurrences among the
keys of the documents, and each group holds exactly the documents whose keys mean the same as
its own, in their order. Equality of meaning being an equivalence, this divides the documents
among the groups.
-/
namespace DocumentGateway

open Json (FirstOccurrences)

/-! ## Reading a grouping -/

/-- A grouping as it is read: a constant key holds each key of an object once, and the names of
the fields differ from each other and from that of the identifier. -/
structure Grouping.Proper (grouping : Grouping) : Prop where
  key : ∀ value, grouping.key = .constant value → value.Distinct
  names : ("_id" :: grouping.fields.map GroupField.name).Nodup

/-- A constant operand is written as its value. -/
theorem eq_of_ofJson_constant {written value : Json} (read : Operand.ofJson written = .constant value) :
    written = value := by
  unfold Operand.ofJson at read
  split at read
  · split at read
    · cases read
    · exact Operand.constant.inj read
  · exact Operand.constant.inj read

/-- A field of a group has the name of the member that it is read of. -/
theorem name_of_readGroupField {member : String × Json} {field : GroupField}
    (read : readGroupField member = .ok field) : field.name = member.1 := by
  unfold readGroupField at read
  split at read
  · split at read
    · obtain rfl := Except.ok.inj read
      rfl
    · cases read
  · cases read

/-- The fields of a grouping have the names they are written under. -/
theorem names_of_readGroupFields {members : Document} {fields : List GroupField}
    (read : members.mapM readGroupField = .ok fields) :
    fields.map GroupField.name = Keyed.keys members := by
  have each := forall₂_of_mapM read
  clear read
  induction each with
  | nil => rfl
  | cons readField _ inductionHypothesis =>
    rw [List.map_cons, name_of_readGroupField readField, inductionHypothesis]
    rfl

/-- A grouping that is read is proper. -/
theorem proper_of_readGrouping {spec : Json} {grouping : Grouping} (distinct : spec.Distinct)
    (read : readGrouping spec = .ok grouping) : grouping.Proper := by
  unfold readGrouping at read
  split at read
  · rename_i members
    obtain - | - | - | - | - | ⟨keys, each⟩ := distinct
    split at read
    · rename_i key held
      obtain ⟨fields, readFields, rfl⟩ := map_eq_ok_iff.mp read
      constructor
      · intro value constant
        obtain rfl := eq_of_ofJson_constant constant
        exact each ("_id", key) (Keyed.mem_of_get? held)
      · rw [names_of_readGroupFields readFields, List.nodup_cons]
        refine ⟨?_, keys.sublist (List.filter_sublist.map Prod.fst)⟩
        intro identifier
        obtain ⟨member, kept, named⟩ := List.mem_map.mp identifier
        simpa [named] using (List.mem_filter.mp kept).2
    · cases read
  · cases read

/-- A grouping stage that is accepted has a proper grouping. -/
theorem proper_of_ofJson {spec : Json} {grouping : Grouping} (distinct : spec.Distinct)
    (read : Stage.ofJson (.object [("$group", spec)]) = .ok (.group grouping)) :
    grouping.Proper := by
  have mapped : (readGrouping spec).map Stage.group = .ok (.group grouping) := read
  obtain ⟨made, readSpec, same⟩ := map_eq_ok_iff.mp mapped
  obtain rfl := Stage.group.inj same
  exact proper_of_readGrouping distinct readSpec

/-! ## Keys and summaries -/

section

variable {grouping : Grouping} (proper : grouping.Proper)

include proper

/-- The key of a document holds each key of an object once, as the document does. -/
theorem distinct_keyOf {document : Document} (distinct : (Json.object document).Distinct) :
    (grouping.keyOf document).Distinct := by
  unfold Grouping.keyOf
  cases operand : grouping.key with
  | constant value => exact proper.key value operand
  | field path =>
    cases found : Json.resolve document path with
    | none => simpa [Operand.eval, found] using Json.Distinct.null
    | some value =>
      simpa [Operand.eval, found] using Json.distinct_follow distinct found

/-- The document of a group shows its key and, after it, the fields in their order. -/
theorem summary_eq (group : Group) :
    grouping.summary group = ("_id", group.key) :: grouping.fields.map fun field =>
      (field.name, field.accumulator.apply (group.members.map field.operand.eval)) := by
  let shown : Document := grouping.fields.map fun field =>
    (field.name, field.accumulator.apply (group.members.map field.operand.eval))
  have names : (Keyed.keys ([("_id", group.key)] ++ shown)).Nodup := by
    simpa [shown, Keyed.keys, Function.comp_def] using proper.names
  have stored : Keyed.insertAll shown [("_id", group.key)] = ("_id", group.key) :: shown :=
    Keyed.insertAll_distinct names
  rw [Keyed.insertAll, List.foldl_map] at stored
  exact stored

end

/-! ## Joining a group -/

/-- The keys of the groups grow by the key of the document unless one of them means the same. -/
theorem keys_joinGroup (key : Json) (document : Document) (groups : List Group) :
    (joinGroup key document groups).map Group.key =
      if (groups.map Group.key).any (·.same key) then groups.map Group.key
      else groups.map Group.key ++ [key] := by
  induction groups with
  | nil => rfl
  | cons group rest inductionHypothesis =>
    by_cases here : group.key.same key = true
    · simp [joinGroup, here]
    · rw [joinGroup, if_neg here, List.map_cons, inductionHypothesis]
      simp only [List.map_cons, List.any_cons, Bool.eq_false_iff.mpr here, Bool.false_or]
      split <;> rfl

/-- A group after a document with a key: it has the document if its own key means the same. -/
def Group.welcome (key : Json) (document : Document) (group : Group) : Group :=
  if group.key.same key then { group with members := group.members ++ [document] } else group

/-- If a key means the same as that of one group only, the first such group is the only one. -/
theorem joinGroup_known {key : Json} {document : Document} {groups : List Group}
    (apart : groups.Pairwise fun left right => left.key.same key = true →
      right.key.same key = false)
    (known : ∃ group ∈ groups, group.key.same key = true) :
    joinGroup key document groups = groups.map (Group.welcome key document) := by
  induction groups with
  | nil => simp at known
  | cons group rest inductionHypothesis =>
    obtain ⟨apartHere, apartRest⟩ := List.pairwise_cons.mp apart
    rw [joinGroup, List.map_cons, Group.welcome]
    by_cases here : group.key.same key = true
    · rw [if_pos here, if_pos here]
      have others : rest.map (Group.welcome key document) = rest := by
        apply List.map_congr_left (g := id) _ |>.trans (List.map_id rest)
        intro other member
        simp [Group.welcome, apartHere other member here]
      rw [others]
    · rw [if_neg here, if_neg here]
      have later : ∃ other ∈ rest, other.key.same key = true := by
        simpa [here] using known
      rw [inductionHypothesis apartRest later]

/-- A document with a new key opens a group of its own at the end. -/
theorem joinGroup_unknown {key : Json} {document : Document} {groups : List Group}
    (unknown : ∀ group ∈ groups, group.key.same key = false) :
    joinGroup key document groups = groups ++ [⟨key, [document]⟩] := by
  induction groups with
  | nil => rfl
  | cons group rest inductionHypothesis =>
    obtain ⟨here, later⟩ := List.forall_mem_cons.mp unknown
    simp [joinGroup, here, inductionHypothesis later]

/-! ## The groups of a list of documents -/

/-- Groups of documents: the keys are the first occurrences among the keys of the documents, and
each group holds the documents whose keys mean the same as its own, in their order. -/
structure Grouped (grouping : Grouping) (documents : List Document) (groups : List Group) :
    Prop where
  keys : FirstOccurrences (documents.map grouping.keyOf) (groups.map Group.key)
  members : ∀ group ∈ groups,
    group.members = documents.filter fun document => group.key.same (grouping.keyOf document)

namespace Grouped

variable {grouping : Grouping} {documents : List Document} {groups : List Group}

/-- The key of a group is the key of one of the documents. -/
theorem distinct_key (grouped : Grouped grouping documents groups)
    (distinct : ∀ document ∈ documents, (grouping.keyOf document).Distinct) :
    ∀ group ∈ groups, group.key.Distinct := by
  intro group member
  obtain ⟨document, inDocuments, same⟩ :=
    List.mem_map.mp (grouped.keys.mem (List.mem_map_of_mem member))
  rw [← same]
  exact distinct document inDocuments

/-- No two groups have keys that mean the same as a third one. -/
theorem apart (grouped : Grouped grouping documents groups)
    (distinct : ∀ document ∈ documents, (grouping.keyOf document).Distinct) (key : Json) :
    groups.Pairwise fun left right => left.key.same key = true → right.key.same key = false := by
  refine (List.pairwise_map.mp grouped.keys.apart).imp_of_mem ?_
  intro left right inLeft inRight unlike alike
  cases alikeRight : right.key.same key with
  | false => rfl
  | true =>
    have back := Json.same_symm (grouped.distinct_key distinct right inRight) alikeRight
    rw [Json.same_trans alike back] at unlike
    cases unlike.1

/-- A document that joins the groups leaves them groups of the documents and itself. -/
theorem join (grouped : Grouped grouping documents groups)
    (distinct : ∀ document ∈ documents, (grouping.keyOf document).Distinct) {document : Document}
    (distinctHere : (grouping.keyOf document).Distinct) :
    Grouped grouping (documents ++ [document])
      (joinGroup (grouping.keyOf document) document groups) where
  keys := by
    rw [keys_joinGroup, List.map_append]
    exact grouped.keys.concat distinctHere
  members := by
    by_cases known : ∃ group ∈ groups, group.key.same (grouping.keyOf document) = true
    · rw [joinGroup_known (grouped.apart distinct _) known]
      intro joined member
      obtain ⟨group, inGroups, rfl⟩ := List.mem_map.mp member
      have before := grouped.members group inGroups
      unfold Group.welcome
      split
      · rename_i here
        simp [before, here]
      · rename_i apart
        simp [before, apart]
    · have unknown : ∀ group ∈ groups, group.key.same (grouping.keyOf document) = false := by
        simpa using known
      rw [joinGroup_unknown unknown]
      intro group member
      rcases List.mem_append.mp member with before | here
      · simp [grouped.members group before, unknown group before]
      · obtain rfl := List.mem_singleton.mp here
        have unlike := grouped.keys.unlike_values distinctHere (List.forall_mem_map.mpr unknown)
        have none : documents.filter
            (fun other => (grouping.keyOf document).same (grouping.keyOf other)) = [] := by
          rw [List.filter_eq_nil_iff]
          intro other inDocuments
          simp [unlike _ (List.mem_map_of_mem inDocuments)]
        simp [none, Json.same_refl distinctHere]

end Grouped

/-- The groups that are made one document after another are the groups of all documents. -/
theorem grouped_groups {grouping : Grouping} {documents : List Document}
    (distinct : ∀ document ∈ documents, (grouping.keyOf document).Distinct) :
    Grouped grouping documents (grouping.groups documents) := by
  induction documents using List.reverseRecOn with
  | nil => exact ⟨.nil, fun group member => absurd member List.not_mem_nil⟩
  | append_singleton documents document inductionHypothesis =>
    obtain ⟨before, here⟩ := List.forall_mem_append.mp distinct
    have step : grouping.groups (documents ++ [document]) =
        joinGroup (grouping.keyOf document) document (grouping.groups documents) := by
      simp [Grouping.groups]
    rw [step]
    exact (inductionHypothesis before).join before (here document (List.mem_singleton_self document))

/-! ## Divided documents -/

/-- A division of the documents of a list, which are told from each other by their places, among a
number of groups. Documents are in one group exactly if they are alike. Every group has a first
document, and the groups stand in the order of these. -/
structure Division (alike : Document → Document → Prop) (documents : List Document)
    (count : Nat) where
  groupOf : Fin documents.length → Fin count
  first : Fin count → Fin documents.length
  together : ∀ left right, groupOf left = groupOf right ↔ alike documents[left] documents[right]
  inGroup : ∀ group, groupOf (first group) = group
  earliest : ∀ place, first (groupOf place) ≤ place
  inOrder : StrictMono first

/-- The documents of a group, in their order. -/
def Division.members {alike : Document → Document → Prop} {documents : List Document} {count : Nat}
    (division : Division alike documents count) (group : Fin count) : List Document :=
  ((List.finRange documents.length).filter (division.groupOf · = group)).map (documents[·])

/-- Two documents have keys that mean the same, null standing for a missing one. -/
def Grouping.Alike (grouping : Grouping) (left right : Document) : Prop :=
  (grouping.keyOf left).same (grouping.keyOf right) = true

namespace Grouped

variable {grouping : Grouping} {documents : List Document} {groups : List Group}

/-- Each document has the key of exactly one group. -/
theorem existsUnique_group (grouped : Grouped grouping documents groups)
    (distinct : ∀ document ∈ documents, (grouping.keyOf document).Distinct)
    (place : Fin documents.length) :
    ∃! group : Fin groups.length,
      groups[group].key.same (grouping.keyOf documents[place]) = true := by
  have member : grouping.keyOf documents[place] ∈ documents.map grouping.keyOf :=
    List.mem_map_of_mem (List.getElem_mem place.isLt)
  obtain ⟨group, alike, unique⟩ := grouped.keys.existsUnique (List.forall_mem_map.mpr distinct) member
  have sameLength : (groups.map Group.key).length = groups.length := List.length_map ..
  refine ⟨group.cast sameLength, by simpa using alike, ?_⟩
  intro other alikeOther
  have same := unique (other.cast sameLength.symm) (by simpa using alikeOther)
  rw [← same]
  rfl

/-- The place of the first group that a document with a key finds. -/
def groupPlace (grouping : Grouping) (groups : List Group) (document : Document) : Nat :=
  groups.findIdx fun group => group.key.same (grouping.keyOf document)

/-- The place of the first document that has the key of a group. -/
def firstPlace (grouping : Grouping) (documents : List Document) (group : Group) : Nat :=
  documents.findIdx fun document => group.key.same (grouping.keyOf document)

/-- Every document finds a group. -/
theorem groupPlace_lt (grouped : Grouped grouping documents groups) (place : Fin documents.length) :
    groupPlace grouping groups documents[place] < groups.length := by
  obtain ⟨key, inKeys, alike⟩ := grouped.keys.covers (grouping.keyOf documents[place])
    (List.mem_map_of_mem (List.getElem_mem place.isLt))
  obtain ⟨group, inGroups, rfl⟩ := List.mem_map.mp inKeys
  exact List.findIdx_lt_length.mpr ⟨group, inGroups, alike⟩

/-- The key of a group is that of the first document that has it. -/
theorem key_firstPlace (grouped : Grouped grouping documents groups) (group : Fin groups.length) :
    ∃ within : firstPlace grouping documents groups[group] < documents.length,
      grouping.keyOf documents[firstPlace grouping documents groups[group]] = groups[group].key := by
  have found := grouped.keys.first groups[group].key
    (List.mem_map_of_mem (List.getElem_mem group.isLt))
  rw [List.find?_eq_getElem?_findIdx, List.findIdx_map, List.getElem?_map,
    Option.map_eq_some_iff] at found
  obtain ⟨document, held, same⟩ := found
  obtain ⟨within, rfl⟩ := List.getElem?_eq_some_iff.mp held
  exact ⟨within, same⟩

/-- A document has the key of a group exactly if the group is the first one that it finds. -/
theorem alike_iff (grouped : Grouped grouping documents groups)
    (distinct : ∀ document ∈ documents, (grouping.keyOf document).Distinct)
    (group : Fin groups.length) (place : Fin documents.length) :
    groups[group].key.same (grouping.keyOf documents[place]) = true ↔
      groupPlace grouping groups documents[place] = group := by
  have within := grouped.groupPlace_lt place
  have here : groups[groupPlace grouping groups documents[place]].key.same
      (grouping.keyOf documents[place]) = true := List.findIdx_getElem (w := within)
  constructor
  · intro alike
    have same : (⟨_, within⟩ : Fin groups.length) = group :=
      (grouped.existsUnique_group distinct place).unique here alike
    exact congrArg Fin.val same
  · intro same
    obtain rfl : ⟨_, within⟩ = group := Fin.ext same
    exact here

/-- The groups come up in their order. -/
theorem firstPlace_lt (grouped : Grouped grouping documents groups) {left right : Fin groups.length}
    (before : left < right) :
    firstPlace grouping documents groups[left] < firstPlace grouping documents groups[right] := by
  have inOrder := grouped.keys.inOrder
  rw [List.map_map, List.pairwise_map] at inOrder
  have places := List.pairwise_iff_getElem.mp inOrder left right left.isLt right.isLt before
  simpa only [Function.comp_def, List.findIdx_map, firstPlace, Fin.getElem_fin] using places

/-- The division of the documents among their groups. -/
def division (grouped : Grouped grouping documents groups)
    (distinct : ∀ document ∈ documents, (grouping.keyOf document).Distinct) :
    Division grouping.Alike documents groups.length where
  groupOf place := ⟨groupPlace grouping groups documents[place], grouped.groupPlace_lt place⟩
  first group := ⟨firstPlace grouping documents groups[group], (grouped.key_firstPlace group).1⟩
  together := by
    intro left right
    have hereLeft := (grouped.alike_iff distinct ⟨_, grouped.groupPlace_lt left⟩ left).mpr rfl
    have hereRight := (grouped.alike_iff distinct ⟨_, grouped.groupPlace_lt right⟩ right).mpr rfl
    rw [Fin.mk.injEq]
    constructor
    · intro same
      have toLeft := (grouped.alike_iff distinct ⟨_, grouped.groupPlace_lt right⟩ left).mpr same
      have back := Json.same_symm
        (grouped.distinct_key distinct _ (List.getElem_mem (grouped.groupPlace_lt right))) toLeft
      exact Json.same_trans back hereRight
    · intro alike
      exact ((grouped.alike_iff distinct ⟨_, grouped.groupPlace_lt left⟩ right).mp
        (Json.same_trans hereLeft alike)).symm
  inGroup := by
    intro group
    obtain ⟨within, -⟩ := grouped.key_firstPlace group
    exact Fin.ext ((grouped.alike_iff distinct group ⟨_, within⟩).mp
      (List.findIdx_getElem (w := within)))
  earliest := by
    intro place
    by_contra later
    have unlike := List.not_of_lt_findIdx (Nat.lt_of_not_le later)
    have here := (grouped.alike_iff distinct ⟨_, grouped.groupPlace_lt place⟩ place).mpr rfl
    exact Bool.false_ne_true (unlike.symm.trans here)
  inOrder _ _ before := grouped.firstPlace_lt before

/-- The members of a group are the documents that the division puts into it. -/
theorem members_division (grouped : Grouped grouping documents groups)
    (distinct : ∀ document ∈ documents, (grouping.keyOf document).Distinct)
    (group : Fin groups.length) :
    groups[group].members = (grouped.division distinct).members group := by
  have asPlaces := List.map_getElem_finRange documents
  rw [Fin.getElem_fin, grouped.members _ (List.getElem_mem group.isLt), Division.members]
  nth_rewrite 1 [← asPlaces]
  rw [List.filter_map]
  congr 1
  apply List.filter_congr
  intro place _
  rw [Bool.eq_iff_iff, decide_eq_true_iff, Fin.ext_iff]
  exact grouped.alike_iff distinct group place

end Grouped

/-- A grouping divides the documents: those whose keys mean the same, null standing for a missing
key, are in one group. It makes one document of each group, in the order of their first members,
which shows the key of the first member and each field computed from exactly the members of the
group in their order. -/
theorem grouping_divides_documents {spec : Json} {grouping : Grouping} {documents : List Document}
    (written : spec.Distinct)
    (read : Stage.ofJson (.object [("$group", spec)]) = .ok (.group grouping))
    (distinct : ∀ document ∈ documents, (Json.object document).Distinct) :
    ∃ (count : Nat) (division : Division grouping.Alike documents count),
      grouping.apply documents = List.ofFn fun group =>
        ("_id", grouping.keyOf documents[division.first group]) ::
          grouping.fields.map fun field =>
            (field.name, field.accumulator.apply ((division.members group).map field.operand.eval)) := by
  have proper := proper_of_ofJson written read
  have keysDistinct : ∀ document ∈ documents, (grouping.keyOf document).Distinct := by
    intro document member
    exact distinct_keyOf proper (distinct document member)
  have grouped := grouped_groups keysDistinct
  refine ⟨_, grouped.division keysDistinct, ?_⟩
  calc grouping.apply documents
      = (List.ofFn fun group : Fin (grouping.groups documents).length =>
          (grouping.groups documents)[group]).map grouping.summary :=
        congrArg (List.map grouping.summary) List.ofFn_getElem.symm
    _ = List.ofFn fun group : Fin (grouping.groups documents).length =>
          grouping.summary (grouping.groups documents)[group] := List.map_ofFn
    _ = _ := by
        congr 1
        funext group
        obtain ⟨_, sameKey⟩ := grouped.key_firstPlace group
        rw [summary_eq proper, grouped.members_division keysDistinct group, ← sameKey]
        rfl

/-- Keys with their members in different orders and numbers of different kinds are one key, and a
missing key is the same as null. -/
theorem grouping_divides_reordered_keys :
    let one : Json := .number (.integer 1)
    let spec : Json := .object [("_id", .string "$k"), ("n", .object [("$sum", one)]),
      ("all", .object [("$push", .string "$v.0")])]
    let grouping : Grouping :=
      ⟨.field "k", [⟨"n", .sum, .constant one⟩, ⟨"all", .collect, .field "v.0"⟩]⟩
    let documents : List Document :=
      [[("k", .object [("a", one), ("b", .null)]), ("v", .array [one])], [("v", .bool true)],
        [("k", .object [("b", .null), ("a", .number (.real 1.0))])], [("k", .null)]]
    spec.Distinct ∧ Stage.ofJson (.object [("$group", spec)]) = .ok (.group grouping) ∧
      (∀ document ∈ documents, (Json.object document).Distinct) ∧
      ∃ (count : Nat) (division : Division grouping.Alike documents count),
        grouping.apply documents = List.ofFn fun group =>
          ("_id", grouping.keyOf documents[division.first group]) ::
            grouping.fields.map fun field => (field.name,
              field.accumulator.apply ((division.members group).map field.operand.eval)) := by
  intro one spec grouping documents
  have written : spec.Distinct := by decide
  have read : Stage.ofJson (.object [("$group", spec)]) = .ok (.group grouping) := rfl
  have distinct : ∀ document ∈ documents, (Json.object document).Distinct := by decide
  exact ⟨written, read, distinct, grouping_divides_documents written read distinct⟩

end DocumentGateway

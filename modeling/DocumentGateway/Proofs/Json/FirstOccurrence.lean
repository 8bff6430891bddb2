import DocumentGateway.Proofs.Json.Order
import Mathlib.Logic.ExistsUnique

/-!
# First occurrences

Values can be told apart by their meaning only up to the first one that means the same. The
list of first occurrences grows with a list of values one by one: a value is added to it
unless one that means the same is in it. What this keeps is that no two of the listed values
mean the same, that each stands for what comes up first among its like, and that they are
listed in the order in which they come up.
-/
namespace DocumentGateway.Json

/-- The values of a list that mean the same as none before them, in their order. -/
structure FirstOccurrences (values listed : List Json) : Prop where
  apart : listed.Pairwise fun left right => left.same right = false ∧ right.same left = false
  covers : ∀ value ∈ values, ∃ seen ∈ listed, seen.same value = true
  first : ∀ seen ∈ listed, values.find? seen.same = some seen
  inOrder : (listed.map fun seen => values.findIdx seen.same).Pairwise (· < ·)

namespace FirstOccurrences

variable {values listed : List Json}

/-- Where there are no values there are no first occurrences. -/
theorem nil : FirstOccurrences [] [] := by
  constructor <;> simp

/-- A listed value is one of the values. -/
theorem mem (occurrences : FirstOccurrences values listed) {seen : Json} (member : seen ∈ listed) :
    seen ∈ values :=
  List.mem_of_find?_eq_some (occurrences.first seen member)

/-- A listed value comes up somewhere among the values. -/
theorem findIdx_lt (occurrences : FirstOccurrences values listed) {seen : Json}
    (member : seen ∈ listed) : values.findIdx seen.same < values.length := by
  have found := occurrences.first seen member
  exact List.findIdx_lt_length.mpr
    ⟨seen, List.mem_of_find?_eq_some found, List.find?_some (p := seen.same) found⟩

/-- What was a first occurrence stays one at its place when a value is appended. -/
theorem kept (occurrences : FirstOccurrences values listed) (value : Json) {seen : Json}
    (member : seen ∈ listed) :
    (values ++ [value]).find? seen.same = some seen ∧
      (values ++ [value]).findIdx seen.same = values.findIdx seen.same := by
  constructor
  · rw [List.find?_append, occurrences.first seen member, Option.some_or]
  · rw [List.findIdx_append, if_pos (occurrences.findIdx_lt member)]

/-- Appending a value moves none of the places of first occurrences. -/
theorem keptPlaces (occurrences : FirstOccurrences values listed) (value : Json) :
    listed.map (fun seen => (values ++ [value]).findIdx seen.same) =
      listed.map fun seen => values.findIdx seen.same := by
  apply List.map_congr_left
  intro seen member
  exact (occurrences.kept value member).2

/-- Appending a value that means the same as a listed one adds no first occurrence. -/
theorem concat_known (occurrences : FirstOccurrences values listed) {value seen : Json}
    (member : seen ∈ listed) (alike : seen.same value = true) :
    FirstOccurrences (values ++ [value]) listed where
  apart := occurrences.apart
  covers := by
    intro other inValues
    rcases List.mem_append.mp inValues with before | here
    · exact occurrences.covers other before
    · obtain rfl := List.mem_singleton.mp here
      exact ⟨seen, member, alike⟩
  first := fun seen member => (occurrences.kept value member).1
  inOrder := by
    rw [occurrences.keptPlaces value]
    exact occurrences.inOrder

/-- Where no listed value means the same as a new one, no value at all does. -/
theorem unlike_values (occurrences : FirstOccurrences values listed) {value : Json}
    (distinct : value.Distinct) (unlike : ∀ seen ∈ listed, seen.same value = false) :
    ∀ other ∈ values, value.same other = false := by
  intro other inValues
  cases alike : value.same other with
  | false => rfl
  | true =>
    obtain ⟨seen, inListed, same⟩ := occurrences.covers other inValues
    have forth := same_trans same (same_symm distinct alike)
    rw [unlike seen inListed] at forth
    cases forth

/-- Appending any other value adds it as a first occurrence, after all the others. -/
theorem concat_fresh (occurrences : FirstOccurrences values listed) {value : Json}
    (distinct : value.Distinct) (unlike : ∀ seen ∈ listed, seen.same value = false) :
    FirstOccurrences (values ++ [value]) (listed ++ [value]) := by
  have fresh := occurrences.unlike_values distinct unlike
  have self := same_refl distinct
  constructor
  case apart =>
    rw [List.pairwise_append]
    refine ⟨occurrences.apart, List.pairwise_singleton .., ?_⟩
    intro seen member other here
    obtain rfl := List.mem_singleton.mp here
    exact ⟨unlike seen member, fresh seen (occurrences.mem member)⟩
  case covers =>
    intro other inValues
    rcases List.mem_append.mp inValues with before | here
    · obtain ⟨seen, inListed, alike⟩ := occurrences.covers other before
      exact ⟨seen, List.mem_append_left _ inListed, alike⟩
    · obtain rfl := List.mem_singleton.mp here
      exact ⟨other, List.mem_append_right _ (List.mem_singleton_self other), self⟩
  case first =>
    intro seen member
    rcases List.mem_append.mp member with before | here
    · exact (occurrences.kept value before).1
    · obtain rfl := List.mem_singleton.mp here
      have notBefore : values.find? seen.same = none :=
        List.find?_eq_none.mpr (by simpa using fresh)
      rw [List.find?_append, notBefore, Option.none_or]
      simp [self]
  case inOrder =>
    have last : (values ++ [value]).findIdx value.same = values.length := by
      have notBefore : values.findIdx value.same = values.length :=
        List.findIdx_eq_length.mpr fresh
      rw [List.findIdx_append, notBefore]
      simp [List.findIdx_cons, self]
    rw [List.map_append, occurrences.keptPlaces value, List.map_singleton, last,
      List.pairwise_append]
    refine ⟨occurrences.inOrder, List.pairwise_singleton .., ?_⟩
    intro place inPlaces other isLast
    obtain rfl := List.mem_singleton.mp isLast
    obtain ⟨seen, inListed, rfl⟩ := List.mem_map.mp inPlaces
    exact occurrences.findIdx_lt inListed

/-- A list of first occurrences is continued by adding a value unless one that means the same is
listed. -/
theorem concat (occurrences : FirstOccurrences values listed) {value : Json}
    (distinct : value.Distinct) :
    FirstOccurrences (values ++ [value])
      (if listed.any (·.same value) then listed else listed ++ [value]) := by
  split
  · rename_i known
    obtain ⟨seen, inListed, alike⟩ := List.any_eq_true.mp known
    exact occurrences.concat_known inListed alike
  · rename_i unknown
    exact occurrences.concat_fresh distinct (by simpa using unknown)

/-- A value means the same as exactly one of the listed ones. -/
theorem existsUnique (occurrences : FirstOccurrences values listed)
    (distinct : ∀ value ∈ values, value.Distinct) {value : Json} (member : value ∈ values) :
    ∃! place : Fin listed.length, (listed.get place).same value = true := by
  obtain ⟨seen, inListed, alike⟩ := occurrences.covers value member
  obtain ⟨place, within, rfl⟩ := List.mem_iff_getElem.mp inListed
  refine ⟨⟨place, within⟩, alike, ?_⟩
  intro other alikeOther
  have back : value.same (listed.get other) = true := same_symm
    (distinct _ (occurrences.mem (List.getElem_mem other.isLt))) alikeOther
  have both : listed[place].same listed[other] = true := same_trans alike back
  have places := List.pairwise_iff_getElem.mp occurrences.apart
  rcases Nat.lt_trichotomy place other with before | same | after
  · rw [Fin.getElem_fin, (places place other within other.isLt before).1] at both
    cases both
  · exact Fin.ext same.symm
  · rw [Fin.getElem_fin, (places other place other.isLt within after).2] at both
    cases both

end FirstOccurrences

end DocumentGateway.Json

import DocumentGateway.Http.Message
import DocumentGateway.Http.Percent
import DocumentGateway.Proofs.Text.Utf8
import Mathlib.Data.List.TakeWhile

/-!
# Paths that stand for themselves

A name without a percent sign means in a path what it says, whatever else it holds. A
target without a question mark and a number sign is all path. So what is written into a
path as it is comes back as it was, unless it holds one of the three.
-/
namespace DocumentGateway.Http

/-- A text that means itself in a path: nothing in it is an escape or ends the path. The target of a
request is taken as given, whatever it holds. A space, an angle bracket or a backtick cannot stand
in a real target unless it is escaped, so for a text with one of them there is no such request. -/
structure Verbatim (text : String) : Prop where
  noEscape : '%' ∉ text.toList
  noQuery : '?' ∉ text.toList
  noFragment : '#' ∉ text.toList

instance (text : String) : Decidable (Verbatim text) :=
  decidable_of_iff ('%' ∉ text.toList ∧ '?' ∉ text.toList ∧ '#' ∉ text.toList)
    ⟨fun ⟨noEscape, noQuery, noFragment⟩ => ⟨noEscape, noQuery, noFragment⟩,
      fun ⟨noEscape, noQuery, noFragment⟩ => ⟨noEscape, noQuery, noFragment⟩⟩

/-- Bytes without a percent sign stand for themselves. -/
theorem percentDecode_eq_self {bytes : Bytes} (absent : percentSign ∉ bytes) :
    percentDecode bytes = bytes := by
  induction bytes using percentDecode.induct with
  | case1 high low rest byte meant inductionHypothesis => simp at absent
  | case2 high low rest notDigits inductionHypothesis => simp at absent
  | case3 byte high low rest different inductionHypothesis =>
    rw [percentDecode, if_neg different,
      inductionHypothesis fun later => absent (List.mem_cons_of_mem byte later)]
  | case4 bytes short =>
    rw [percentDecode]
    exact short

/-- A segment without a percent sign stands for itself. -/
theorem segmentText?_eq_self {segment : String} (noEscape : '%' ∉ segment.toList) :
    segmentText? segment = some segment := by
  have absent : percentSign ∉ Utf8.encode segment := by
    intro member
    exact noEscape (Utf8.ascii_of_mem_encode member (by decide))
  rw [segmentText?, percentDecode_eq_self absent, Utf8.decode?_encode]

/-- A target that begins with a slash is all path if neither a question mark nor a number sign is
in it. -/
theorem Request.path_eq_target {request : Request} {rest : List Char}
    (target : request.target.toList = '/' :: rest) (noQuery : '?' ∉ request.target.toList)
    (noFragment : '#' ∉ request.target.toList) :
    request.path = request.target.toList ∧ request.query = [] := by
  have whole : request.ownTarget = request.target.toList :=
    List.takeWhile_eq_self_iff.mpr fun c member => by
      simpa using fun same : c = '#' => noFragment (same ▸ member)
  have resource : request.resource = request.target.toList := by
    rw [resource, whole, target]
    rfl
  have notEnded : ∀ c ∈ request.target.toList, decide (c ≠ '?') = true := fun c member => by
    simpa using fun same : c = '?' => noQuery (same ▸ member)
  refine ⟨?_, ?_⟩
  · rw [path, resource]
    exact List.takeWhile_eq_self_iff.mpr notEnded
  · rw [query, resource, List.dropWhile_eq_nil_iff.mpr notEnded]
    rfl

end DocumentGateway.Http

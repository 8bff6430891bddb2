import DocumentGateway.Proofs.Search.StoreFilter
import DocumentGateway.Proofs.Search.TermMerge
import DocumentGateway.Proofs.Json.RoundTrip

/-!
# The text of a compiled expression

A compiled expression names each field once and each comparison of a field once, so its
filter document is a regular value of two levels: nothing is lost when it is written as
text, and the store reads from the text the filter that it reads from the document. Only
the numbers of the document that are no integers have to be read as they are.
-/
namespace DocumentGateway

open Decimal (ReadsBack)

namespace Search

/-! ## Fields and comparisons -/

/-- An expression that names each field once, and each comparison of a field once. -/
structure Expression.Distinct (expression : Expression) : Prop where
  fields : (Keyed.keys expression).Nodup
  comparisons : ∀ field operands, (field, .comparisons operands) ∈ expression →
    (Keyed.keys operands).Nodup

/-- The comparisons that terms hold a field to are named once each. -/
theorem Merged.distinct {recognizer : Recognizer} {own : List Term}
    {operands : List (Comparison × Scalar)}
    (merged : Merged recognizer own (some (.comparisons operands))) :
    (Keyed.keys operands).Nodup :=
  merged.operands.order ▸ firstOccurrences_nodup _

/-- A compiled expression is the merge of its accepted terms, which keeps the fields and the
comparisons apart. -/
theorem Recognizer.compile_distinct (recognizer : Recognizer) (search : List Char) :
    (recognizer.compile search).Distinct := by
  have fields : (Keyed.keys (recognizer.compile search)).Nodup := by
    rw [keys_compile]
    exact firstOccurrences_nodup _
  refine ⟨fields, fun field operands held => ?_⟩
  have merged := merged_compile recognizer search field
  rw [Keyed.get?_of_mem fields held] at merged
  exact merged.distinct

/-- What a search string compiles to, if there is one, keeps fields and comparisons apart. -/
theorem compileOptional_distinct (matching : Matching) (search : Option String) :
    (compileOptional matching search).Distinct := by
  cases search with
  | none => exact ⟨List.nodup_nil, fun field operands held => by cases held⟩
  | some text => exact matching.recognizer.compile_distinct text.toList

/-! ## Regular documents -/

/-- The tags of comparisons stay apart under every mark. -/
theorem Comparison.marked_injective (mark : String) :
    Function.Injective fun comparison : Comparison => mark ++ comparison.tag := by
  intro left right same
  have sameTag : left.tag.toList = right.tag.toList := by
    simpa using congrArg String.toList same
  cases left <;> cases right <;> first | rfl | exact absurd sameTag (by decide)

/-- The number of a finite value is an integer within 64 bits or stays as it is. -/
theorem valid_of_ofFloat? {x : Float} {number : Number} (shown : Number.ofFloat? x = some number) :
    number.Valid := by
  unfold Number.ofFloat? at shown
  cases whole : Decimal.exactInteger? x with
  | some integer =>
    rw [whole] at shown
    obtain rfl := Option.some.inj shown
    obtain ⟨n, signed, sizes⟩ := Decimal.magnitude_of_exactInteger? whole
    have atMost : n ≤ 2 ^ 53 := by omega
    change -2 ^ 63 ≤ integer ∧ integer < 2 ^ 64
    split at signed <;> omega
  | none =>
    simp only [whole, Option.ite_none_right_eq_some, Option.some.injEq] at shown
    obtain ⟨finite, rfl⟩ := shown
    exact finite

/-- The JSON form of a scalar is regular within any number of levels, since it has none. -/
theorem Scalar.toJson_regular (scalar : Scalar) (levels : Nat) : scalar.toJson.Regular levels := by
  cases scalar with
  | number x =>
    rw [toJson, Json.ofFloat]
    cases shown : Number.ofFloat? x with
    | some number => exact .number levels (valid_of_ofFloat? shown)
    | none => exact .null levels
  | boolean b => exact .bool levels b
  | text raw => exact .string levels _

/-- The filter document of an expression has distinct keys at both of its levels. -/
theorem Expression.toDocument_regular {expression : Expression} (distinct : expression.Distinct)
    (mark : String) : (Json.object (expression.toDocument mark)).Regular 2 := by
  have fields : Keyed.keys (expression.toDocument mark) = Keyed.keys expression := by
    simp [Keyed.keys, toDocument, Function.comp_def]
  refine .object (fields ▸ distinct.fields) fun member inDocument => ?_
  obtain ⟨⟨field, constraint⟩, held, rfl⟩ := List.mem_map.mp inDocument
  cases constraint with
  | literal value => exact value.toJson_regular 1
  | comparisons operands =>
    have tags : Keyed.keys (operands.map fun entry => (mark ++ entry.1.tag, entry.2.toJson)) =
        (Keyed.keys operands).map fun comparison => mark ++ comparison.tag := by
      simp [Keyed.keys, Function.comp_def]
    have tagsDistinct := (distinct.comparisons field operands held).map
      (Comparison.marked_injective mark)
    refine .object (tags.symm ▸ tagsDistinct) fun member inObject => ?_
    obtain ⟨⟨comparison, operand⟩, -, rfl⟩ := List.mem_map.mp inObject
    exact operand.toJson_regular 0

end Search

/-! ## Filters in texts -/

/-- The text of an object is not blank: it begins with a brace. -/
theorem toText_object_not_blank (document : Document) :
    Text.isBlankText (Json.object document).toText = false := by
  rw [Text.isBlankText, Json.toText, String.toList_ofList, Json.print, List.cons_append,
    List.all_cons]
  rfl

/-- A filter is read from the text of a regular document as from the document, if the
floating-point numbers in the document read back. -/
theorem Filter.ofText_toText {document : Document}
    (regular : (Json.object document).Regular Json.maxDepth)
    (numbersKept : ∀ x ∈ (Json.object document).reals, ReadsBack x) :
    Filter.ofText (Json.object document).toText = Filter.ofJson (.object document) := by
  have read : Json.ofText? (Json.object document).toText = some (.object document) := by
    rw [Json.ofText?_toText regular]
    exact (Json.reread?_eq_self_iff regular).mpr numbersKept
  simp [Filter.ofText, toText_object_not_blank, read]

end DocumentGateway

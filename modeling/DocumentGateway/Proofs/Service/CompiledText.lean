import DocumentGateway.Proofs.Search.ExpressionText

/-!
# Searching through the text of a filter

A service compiles a search string to the text of a filter document, and it finds by the
text of a filter. Together these do what a search does, as long as the service shows its
filters with the mark that the store reads. The text may hold any field name and any raw
value; it is read back as the document it was made of.
-/
namespace DocumentGateway.Service

open Search

variable {service : Service} {search : Option String}

/-- The filter in the text that a search string compiles to is the filter of the search,
or the text is refused for the same reason as the search. -/
theorem readStoreFilterText_compileToText
    (standardMark : service.compiler.operatorMark = storeMark)
    (numbersKept : ∀ x ∈ (Json.object ((compileOptional service.compiler.matching search).toDocument
      storeMark)).reals, Decimal.ReadsBack x) :
    readStoreFilterText (service.compiler.compileToText search) = service.searchFilter search := by
  have regular := (Expression.toDocument_regular
    (compileOptional_distinct service.compiler.matching search) storeMark).mono
    (show 2 ≤ Json.maxDepth by decide)
  rw [Settings.compileToText, Expression.toText, standardMark, readStoreFilterText,
    Filter.ofText_toText regular numbersKept]
  rfl

/-- Finding by the text that a search string compiles to and searching for the string give
the same documents in the same order, or the same refusal, in every store and for every
collection and selection. -/
theorem findText_compileToText (standardMark : service.compiler.operatorMark = storeMark)
    (numbersKept : ∀ x ∈ (Json.object ((compileOptional service.compiler.matching search).toDocument
      storeMark)).reals, Decimal.ReadsBack x)
    (database collection : String) (selection : Selection) :
    (service.findText database collection (service.compiler.compileToText search) selection).1 =
      (service.search database collection search selection).1 := by
  change (readStoreFilterText (service.compiler.compileToText search)).bind _ =
    (service.searchFilter search).bind _
  rw [readStoreFilterText_compileToText standardMark numbersKept]

/-- A search string whose first field looks like a path to an operator, and whose second one
has a quote, a backslash and a line end in its name. -/
theorem findText_compileToText_escaped :
    let service : Service :=
      { store := { backend := .memory .empty, compression := {}, immutable := .empty,
                   ids := ⟨0, toString⟩ },
        compiler := {}, health := {}, probes := 0, records := [] }
    let search := some "a.$gt>=1.5 \"\\\n:"
    service.compiler.operatorMark = storeMark ∧
      (Json.object ((compileOptional service.compiler.matching search).toDocument
        storeMark)).reals = [1.5] ∧
      Decimal.ReadsBack 1.5 ∧
      (service.findText "d" "c" (service.compiler.compileToText search) {}).1 =
        (service.search "d" "c" search {}).1 := by
  intro service search
  have operand : Matching.anywhere.recognizer.operand .gte ['1', '.', '5'] =
      .ok (.number 1.5) := by
    have digit : Text.isDecimalDigit '1' = true :=
      Text.isDecimalDigit_digitChar (n := 1) (by decide)
    have numeric : Matching.anywhere.isNumeric ['1', '.', '5'] = true := by
      rw [Matching.isNumeric, List.any_cons, digit, Bool.true_or]
    simp only [Recognizer.operand, Matching.recognizer, numeric, if_true]
    rfl
  have compared : interpret .anywhere "a.$gt>=1.5".toList =
      .ok (.compare "a.$gt" .gte (.number 1.5)) := by
    have parsed : Term.parse? "a.$gt>=1.5".toList =
        some ⟨"a.$gt".toList, .compare .gte, ['1', '.', '5']⟩ := by decide
    simp only [interpret, Recognizer.interpret, parsed, Recognizer.change, operand]
    rfl
  have compiled : compileOptional service.compiler.matching search =
      [("a.$gt", .comparisons [(.gte, .number 1.5)]), ("\"\\\n", .literal (.text []))] := by
    have cut : readTerms "a.$gt>=1.5 \"\\\n:".toList =
        ["a.$gt>=1.5".toList, "\"\\\n:".toList] := by decide
    have changes : (readTerms "a.$gt>=1.5 \"\\\n:".toList).filterMap
          (fun text => (interpret .anywhere text).toOption) =
        [.compare "a.$gt" .gte (.number 1.5), .bind "\"\\\n" (.text [])] := by
      rw [cut, List.filterMap_cons, compared]
      rfl
    change (List.filterMap (fun text => (interpret .anywhere text).toOption) _).foldl
      Expression.apply [] = _
    rw [changes]
    rfl
  have floats : (Json.object ((compileOptional service.compiler.matching search).toDocument
      storeMark)).reals = [1.5] := by
    rw [compiled]
    rfl
  have back : Decimal.ReadsBack 1.5 := rfl
  refine ⟨rfl, floats, back, findText_compileToText rfl ?_ "d" "c" {}⟩
  rw [floats]
  exact List.forall_mem_singleton.mpr back

end DocumentGateway.Service

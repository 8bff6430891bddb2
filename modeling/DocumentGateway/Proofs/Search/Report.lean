import DocumentGateway.Proofs.Except
import DocumentGateway.Proofs.Search.TermParts
import DocumentGateway.Search.Compiler

/-!
# Reports on search strings

The report on a search string is made in one walk, and it says of every term whether it counts.
Which reason a term is skipped for is read off the term alone. A skipped term leaves no trace in
the expression, wherever it stands: the terms that are left, with single spaces between them, make
up a search string that compiles to the same expression and has nothing to report.

The empty search string is not cut into terms, so there is nothing to report of it, although it
would be one empty piece.
-/
namespace DocumentGateway.Search

/-! ## Readings of a term -/

namespace Recognizer

variable {recognizer : Recognizer}

/-- A term is skipped for a reason. A text with an operator is skipped only if it compares by an
order, with a raw value that does not look like a number or is not a finite one. -/
def Refuses (recognizer : Recognizer) (text : List Char) : SkipReason → Prop
  | .blank => text = []
  | .noOperator => text ≠ [] ∧ ':' ∉ text ∧ '<' ∉ text ∧ '>' ∉ text
  | .nonNumericOperand comparison =>
    comparison ≠ .ne ∧ ∃ term, Term.parse? text = some term ∧
      term.operator = .compare comparison ∧ recognizer.isNumeric term.raw = false
  | .malformedNumber comparison =>
    comparison ≠ .ne ∧ ∃ term, Term.parse? text = some term ∧
      term.operator = .compare comparison ∧ recognizer.isNumeric term.raw = true ∧
        finite? term.raw = none

/-- Only an operand that something is to be ordered by is refused. -/
theorem operand_eq_error_iff {comparison : Comparison} {raw : List Char} {reason : SkipReason} :
    recognizer.operand comparison raw = .error reason ↔
      comparison ≠ .ne ∧
        ((recognizer.isNumeric raw = false ∧ reason = .nonNumericOperand comparison) ∨
          (recognizer.isNumeric raw = true ∧ finite? raw = none ∧
            reason = .malformedNumber comparison)) := by
  cases comparison with
  | ne =>
    cases number : recognizer.number? raw <;> simp [operand, number]
  | gte | lte | gt | lt =>
    cases numeric : recognizer.isNumeric raw <;> cases finite : finite? raw <;>
      simp [operand, numeric, finite, eq_comm]

/-- A term is refused for the reason that its operand is refused for. -/
theorem change_eq_error_iff {term : Term} {reason : SkipReason} :
    recognizer.change term = .error reason ↔
      ∃ comparison, term.operator = .compare comparison ∧
        recognizer.operand comparison term.raw = .error reason := by
  unfold change
  cases operator : term.operator with
  | equal => simp
  | compare comparison =>
    cases outcome : recognizer.operand comparison term.raw <;> simp [outcome, Except.map]

/-- A term of equality asks for a value to be bound, and another one for its comparison with what
is read as its operand. -/
theorem change_eq_ok_iff {term : Term} {change : Change} :
    recognizer.change term = .ok change ↔
      (term.operator = .equal ∧
          change = .bind term.fieldName (recognizer.infer term.raw)) ∨
        ∃ comparison operand, term.operator = .compare comparison ∧
          recognizer.operand comparison term.raw = .ok operand ∧
            change = .compare term.fieldName comparison operand := by
  unfold Recognizer.change
  cases operator : term.operator with
  | equal => simp [eq_comm]
  | compare comparison =>
    simp only [map_eq_ok_iff, reduceCtorEq, false_and, false_or, Operator.compare.injEq]
    constructor
    · rintro ⟨operand, read, rfl⟩
      exact ⟨comparison, operand, rfl, read, rfl⟩
    · rintro ⟨_, operand, rfl, read, rfl⟩
      exact ⟨operand, read, rfl⟩

/-- A text makes a change exactly if it is a term and the term makes the change. -/
theorem interpret_eq_ok_iff {text : List Char} {change : Change} :
    recognizer.interpret text = .ok change ↔
      ∃ term, Term.parse? text = some term ∧ recognizer.change term = .ok change := by
  unfold interpret
  cases Term.parse? text <;> simp

/-- A text is refused for exactly one reason. -/
theorem interpret_eq_error_iff {text : List Char} {reason : SkipReason} :
    recognizer.interpret text = .error reason ↔ recognizer.Refuses text reason := by
  unfold interpret
  cases parsed : Term.parse? text with
  | none =>
    have unmarked := Term.parse?_eq_none_iff.mp parsed
    cases text with
    | nil => cases reason <;> simp [Refuses, parsed]
    | cons c rest => cases reason <;> simp_all [Refuses]
  | some term =>
    have marked : ¬ (':' ∉ text ∧ '<' ∉ text ∧ '>' ∉ text) := by
      rw [← Term.parse?_eq_none_iff, parsed]
      exact Option.some_ne_none term
    have nonempty : text ≠ [] := by
      rintro rfl
      cases parsed
    simp only [change_eq_error_iff, operand_eq_error_iff]
    cases reason with
    | blank => simp [Refuses, nonempty]
    | noOperator => simpa [Refuses, nonempty] using marked
    | nonNumericOperand comparison =>
      grind [Refuses]
    | malformedNumber comparison =>
      grind [Refuses]

/-! ## The walk over the terms -/

/-- The entry of a term that is skipped. -/
def refusal (recognizer : Recognizer) (entry : List Char × Nat) : Option Skipped :=
  match recognizer.interpret entry.1 with
  | .ok _ => none
  | .error reason => some ⟨entry.2, entry.1, reason⟩

/-- A walk carries out the changes of its terms and lists its refusals, each in order. One term is
one of both, and it leaves the other list as it is. -/
theorem foldl_note (recognizer : Recognizer) (entries : List (List Char × Nat)) (report : Report) :
    entries.foldl recognizer.note report =
      ⟨((entries.map Prod.fst).filterMap fun text => (recognizer.interpret text).toOption).foldl
          Expression.apply report.expression,
        report.skipped ++ entries.filterMap recognizer.refusal⟩ := by
  induction entries generalizing report with
  | nil => simp
  | cons entry rest inductionHypothesis =>
    rw [List.foldl_cons, inductionHypothesis]
    cases outcome : recognizer.interpret entry.1 with
    | ok change => simp [note, refusal, outcome, Except.toOption]
    | error reason => simp [note, refusal, outcome, Except.toOption]

/-- The walk builds the expression that is built without a report. -/
theorem report_eq (recognizer : Recognizer) (search : List Char) :
    recognizer.report search =
      ⟨recognizer.compile search, (readTerms search).zipIdx.filterMap recognizer.refusal⟩ := by
  rw [report, foldl_note, List.zipIdx_map_fst, List.nil_append]
  rfl

/-- A report lists exactly the terms that are refused, each at its place and with its reason. -/
theorem mem_skipped_iff {search text : List Char} {position : Nat} {reason : SkipReason} :
    ⟨position, text, reason⟩ ∈ (recognizer.report search).skipped ↔
      (readTerms search)[position]? = some text ∧ recognizer.interpret text = .error reason := by
  rw [report_eq, List.mem_filterMap]
  constructor
  · rintro ⟨⟨other, place⟩, member, refused⟩
    cases outcome : recognizer.interpret other with
    | ok change => simp [refusal, outcome] at refused
    | error cause =>
      obtain ⟨rfl, rfl, rfl⟩ : place = position ∧ other = text ∧ cause = reason := by
        simpa [refusal, outcome] using refused
      exact ⟨List.mem_zipIdx_iff_getElem?.mp member, outcome⟩
  · rintro ⟨here, refused⟩
    exact ⟨(text, position), List.mem_zipIdx_iff_getElem?.mpr here, by simp [refusal, refused]⟩

/-- A refusal is listed with the position of its term. -/
theorem position_of_refusal {entry : List Char × Nat} {skipped : Skipped}
    (refused : recognizer.refusal entry = some skipped) : skipped.position = entry.2 := by
  cases outcome : recognizer.interpret entry.1 with
  | ok change => simp [refusal, outcome] at refused
  | error reason =>
    obtain rfl : (⟨entry.2, entry.1, reason⟩ : Skipped) = skipped := by
      simpa [refusal, outcome] using refused
    rfl

/-- Positions are reported in increasing order. -/
theorem positions_increasing (recognizer : Recognizer) (search : List Char) :
    ((recognizer.report search).skipped.map Skipped.position).Pairwise (· < ·) := by
  have places : (readTerms search).zipIdx.Pairwise fun left right => left.2 < right.2 := by
    rw [← List.pairwise_map (f := Prod.snd), List.zipIdx_map_snd]
    exact List.pairwise_lt_range'
  rw [report_eq, List.pairwise_map]
  refine places.filterMap recognizer.refusal ?_
  intro left right before first isFirst second isSecond
  rw [position_of_refusal isFirst, position_of_refusal isSecond]
  exact before

/-! ## The terms that are left -/

/-- The terms that are read are the pieces between spaces, except that the empty search string has
none. -/
theorem getElem?_readTerms {search text : List Char} {position : Nat} :
    (readTerms search)[position]? = some text ↔
      search ≠ [] ∧ (terms search)[position]? = some text := by
  cases search with
  | nil => simp [readTerms]
  | cons c rest => simp [readTerms]

/-- The terms of a search string that its report does not list. -/
def unreported (recognizer : Recognizer) (search : List Char) : List (List Char) :=
  ((terms search).zipIdx.filter fun (_, position) =>
    (recognizer.report search).skipped.all fun entry => entry.position ≠ position).map Prod.fst

/-- A term is not listed exactly if it can be interpreted, because no two terms stand at one
position. -/
theorem skipped_all_ne_iff {search text : List Char} {position : Nat}
    (here : (readTerms search)[position]? = some text) :
    ((recognizer.report search).skipped.all fun entry => entry.position ≠ position) =
      (recognizer.interpret text).isOk := by
  cases outcome : recognizer.interpret text with
  | error reason =>
    have listed := mem_skipped_iff.mpr ⟨here, outcome⟩
    simpa [Except.isOk, Except.toBool] using ⟨_, listed, rfl⟩
  | ok change =>
    have absent : ∀ entry ∈ (recognizer.report search).skipped, entry.position ≠ position := by
      rintro ⟨place, other, reason⟩ listed rfl
      obtain ⟨there, refused⟩ := mem_skipped_iff.mp listed
      obtain rfl : text = other := Option.some.inj (here.symm.trans there)
      rw [outcome] at refused
      cases refused
    simpa [Except.isOk, Except.toBool] using absent

/-- The places that a report does not list are those of the terms that can be interpreted. -/
theorem filter_unlisted (recognizer : Recognizer) (search : List Char) :
    ((readTerms search).zipIdx.filter fun (_, position) =>
        (recognizer.report search).skipped.all fun entry => entry.position ≠ position) =
      (readTerms search).zipIdx.filter fun entry => (recognizer.interpret entry.1).isOk :=
  List.filter_congr fun _ member => skipped_all_ne_iff (List.mem_zipIdx_iff_getElem?.mp member)

/-- The terms that a report does not list are those that can be interpreted. -/
theorem unreported_eq {search : List Char} (nonempty : search ≠ []) :
    recognizer.unreported search =
      (readTerms search).filter fun text => (recognizer.interpret text).isOk := by
  have read : terms search = readTerms search := by
    simp [readTerms, nonempty]
  rw [unreported, read, filter_unlisted]
  conv => rhs; rw [← List.zipIdx_map_fst 0 (readTerms search), List.filter_map]
  rfl

/-- What an expression is built from are the terms that can be interpreted. -/
theorem compile_congr {left right : List Char}
    (same : (readTerms left).filter (fun text => (recognizer.interpret text).isOk) =
      (readTerms right).filter fun text => (recognizer.interpret text).isOk) :
    recognizer.compile left = recognizer.compile right := by
  have changes : ∀ texts : List (List Char),
      texts.filterMap (fun text => (recognizer.interpret text).toOption) =
        (texts.filter fun text => (recognizer.interpret text).isOk).filterMap
          fun text => (recognizer.interpret text).toOption := by
    intro texts
    rw [List.filterMap_filter]
    refine List.filterMap_congr fun text _ => ?_
    cases recognizer.interpret text <;> rfl
  rw [compile, compile, changes (readTerms left), same, ← changes]

/-- A search string all of whose terms can be interpreted has an empty report. -/
theorem report_of_interpreted {search : List Char}
    (each : ∀ text ∈ readTerms search, (recognizer.interpret text).isOk = true) :
    recognizer.report search = ⟨recognizer.compile search, []⟩ := by
  have nothing : (readTerms search).zipIdx.filterMap recognizer.refusal = [] := by
    refine List.filterMap_eq_nil_iff.mpr fun entry member => ?_
    have interpreted := each entry.1 (List.fst_mem_of_mem_zipIdx member)
    cases outcome : recognizer.interpret entry.1 with
    | error reason => rw [outcome] at interpreted; cases interpreted
    | ok change => simp [refusal, outcome]
  rw [report_eq, nothing]

/-- Terms without spaces that can be interpreted are the terms of what they make up. There may be
none of them: then there is no text to cut either. -/
theorem readTerms_intercalate {texts : List (List Char)} (spaceless : ∀ text ∈ texts, ' ' ∉ text)
    (each : ∀ text ∈ texts, (recognizer.interpret text).isOk = true) :
    readTerms ([' '].intercalate texts) = texts := by
  by_cases noTexts : texts = []
  · subst noTexts
    rfl
  · have cut : terms ([' '].intercalate texts) = texts := Text.pieces_intercalate noTexts spaceless
    have nonempty : [' '].intercalate texts ≠ [] := by
      intro bare
      have blank : texts = [[]] := by
        rw [← cut, bare]
        rfl
      have interpreted := each [] (by simp [blank])
      cases interpreted
    simp [readTerms, nonempty, cut]

/-- The terms that are left compile to the same expression, and there is nothing to report. -/
theorem report_unreported (recognizer : Recognizer) (search : List Char) :
    recognizer.report ([' '].intercalate (recognizer.unreported search)) =
      ⟨recognizer.compile search, []⟩ := by
  by_cases bare : search = []
  · subst bare
    rfl
  · rw [unreported_eq bare]
    have each : ∀ text ∈ (readTerms search).filter fun text => (recognizer.interpret text).isOk,
        (recognizer.interpret text).isOk = true :=
      fun text member => (List.mem_filter.mp member).2
    have spaceless : ∀ text ∈ (readTerms search).filter fun text =>
        (recognizer.interpret text).isOk, ' ' ∉ text := by
      intro text member
      have inTerms := (List.mem_filter.mp member).1
      simp only [readTerms, List.isEmpty_iff, bare, if_false] at inTerms
      exact Text.separator_notMem_piece inTerms
    have left := readTerms_intercalate spaceless each
    rw [report_of_interpreted (left.symm ▸ each)]
    congr 1
    refine compile_congr ?_
    rw [left, List.filter_filter]
    simp

end Recognizer

/-! ## Accounting for every term -/

/-- A report accounts for every term. It holds the expression that is built without a report, and
its positions increase. Of a search string that is not empty it lists exactly the terms that are
refused, each at its place among the pieces between spaces and with its reason; of the empty one it
lists nothing. The terms that it does not list, with single spaces between them, make up a search
string with the same expression and an empty report. This holds for whatever recognizes types, and
the ways of matching are among that. -/
theorem report_accounts_for_terms (recognizer : Recognizer) (search : List Char) :
    let report := recognizer.report search
    report.expression = recognizer.compile search ∧
      (report.skipped.map Skipped.position).Pairwise (· < ·) ∧
      (∀ position text reason, ⟨position, text, reason⟩ ∈ report.skipped ↔
        search ≠ [] ∧ (terms search)[position]? = some text ∧ recognizer.Refuses text reason) ∧
      recognizer.report ([' '].intercalate (recognizer.unreported search)) =
        ⟨report.expression, []⟩ ∧
      ∀ matching : Matching,
        Search.compile matching search = matching.recognizer.compile search ∧
          Search.report matching search = matching.recognizer.report search := by
  intro report
  have expression : report.expression = recognizer.compile search := by
    rw [show report = _ from recognizer.report_eq search]
  refine ⟨expression, recognizer.positions_increasing search, ?_, ?_, fun _ => ⟨rfl, rfl⟩⟩
  · intro position text reason
    rw [Recognizer.mem_skipped_iff, Recognizer.getElem?_readTerms,
      Recognizer.interpret_eq_error_iff, and_assoc]
  · rw [expression]
    exact recognizer.report_unreported search

/-- The empty search string would be one empty piece, and this piece is not listed. -/
theorem empty_search_unreported :
    ¬ ∀ position text, (terms "".toList)[position]? = some text →
      (⟨position, text, .blank⟩ ∈ (report .anywhere "".toList).skipped ↔ text = []) := by
  intro accounted
  have listed := (accounted 0 [] rfl).mpr rfl
  cases listed

end DocumentGateway.Search

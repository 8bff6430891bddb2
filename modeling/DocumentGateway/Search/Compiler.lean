import DocumentGateway.Search.Expression
import DocumentGateway.Text.Blank

/-!
# Compiling search strings

Terms are read from left to right and each one changes the expression or is skipped
with a reason. Nothing is ever refused: a term that cannot be understood contributes
nothing. The empty search string has no terms at all.

A compiler types raw values by asking a recognizer, and any recognizer will do. The
report on a search string is made in one walk: each term in turn changes the expression
that is being built or is noted as skipped, and then it leaves the expression as it is.
-/
namespace DocumentGateway.Search

/-- Why a term contributed nothing. -/
inductive SkipReason where
  | blank
  | noOperator
  | nonNumericOperand (comparison : Comparison)
  | malformedNumber (comparison : Comparison)
  deriving DecidableEq, Repr

/-- The wording of a reason. -/
def SkipReason.message : SkipReason → String
  | .blank => "empty term"
  | .noOperator => "no operator found"
  | .nonNumericOperand comparison => "'" ++ comparison.tag ++ "' requires a numeric value"
  | .malformedNumber comparison => "'" ++ comparison.tag ++ "' value is not a valid number"

/-- The JSON form of a reason. -/
def SkipReason.toJson : SkipReason → Json
  | .blank => .object [("kind", .string "blank")]
  | .noOperator => .object [("kind", .string "no_operator")]
  | .nonNumericOperand comparison =>
    .object [("kind", .string "non_numeric_operand"), ("op", .string comparison.tag)]
  | .malformedNumber comparison =>
    .object [("kind", .string "malformed_number"), ("op", .string comparison.tag)]

/-- A skipped term with its place among the terms. -/
structure Skipped where
  position : Nat
  term : List Char
  reason : SkipReason

/-- The JSON form of a skipped term. -/
def Skipped.toJson (skipped : Skipped) : Json :=
  .object [("position", Json.ofNat skipped.position),
    ("term", .string (String.ofList skipped.term)), ("reason", skipped.reason.toJson)]

/-- An expression together with the terms that did not contribute to it. -/
structure Report where
  expression : Expression
  skipped : List Skipped

/-- The terms that are read: none for the empty search string. -/
def readTerms (search : List Char) : List (List Char) :=
  if search.isEmpty then [] else terms search

namespace Recognizer

variable (recognizer : Recognizer)

/-- The operand of a comparison. Only `ne` takes text, and none takes a boolean. -/
def operand (comparison : Comparison) (raw : List Char) : Except SkipReason Scalar :=
  match comparison with
  | .ne =>
    match recognizer.number? raw with
    | some x => .ok (.number x)
    | none => .ok (.text raw)
  | ordering =>
    if recognizer.isNumeric raw then
      match finite? raw with
      | some x => .ok (.number x)
      | none => .error (.malformedNumber ordering)
    else .error (.nonNumericOperand ordering)

/-- The change a term asks for. -/
def change (term : Term) : Except SkipReason Change :=
  match term.operator with
  | .equal => .ok (.bind term.fieldName (recognizer.infer term.raw))
  | .compare comparison =>
    (recognizer.operand comparison term.raw).map fun operand =>
      .compare term.fieldName comparison operand

/-- Reads one term of a search string. -/
def interpret (text : List Char) : Except SkipReason Change :=
  match Term.parse? text with
  | some term => recognizer.change term
  | none => .error (if text.isEmpty then .blank else .noOperator)

/-- The expression of a search string. -/
def compile (search : List Char) : Expression :=
  ((readTerms search).filterMap fun text => (recognizer.interpret text).toOption).foldl
    Expression.apply []

/-- Takes one more term, with its position, into a report. -/
def note (report : Report) (entry : List Char × Nat) : Report :=
  match recognizer.interpret entry.1 with
  | .ok change => { report with expression := report.expression.apply change }
  | .error reason =>
    { report with skipped := report.skipped ++ [⟨entry.2, entry.1, reason⟩] }

/-- Compiles a search string and accounts for every skipped term, in one walk. -/
def report (search : List Char) : Report :=
  (readTerms search).zipIdx.foldl recognizer.note ⟨[], []⟩

end Recognizer

/-! ## Compiling under a way of matching -/

/-- Reads one term of a search string under a way of matching. -/
def interpret (matching : Matching) : List Char → Except SkipReason Change :=
  matching.recognizer.interpret

/-- The expression of a search string under a way of matching. -/
def compile (matching : Matching) : List Char → Expression :=
  matching.recognizer.compile

/-- An absent search string constrains nothing. -/
def compileOptional (matching : Matching) (search : Option String) : Expression :=
  match search with
  | some search => compile matching search.toList
  | none => []

/-- The report on a search string under a way of matching. -/
def report (matching : Matching) : List Char → Report :=
  matching.recognizer.report

/-- The adjustable part of the compiler. -/
structure Settings where
  operatorMark : String := storeMark
  matching : Matching := .anywhere

/-- Why settings are refused. -/
inductive SettingsError where
  | blankInMark
  | dotInMark
  deriving DecidableEq, Repr

/-- The wording of a refusal. -/
def SettingsError.message : SettingsError → String
  | .blankInMark => "invalid configuration: operator_prefix must not contain whitespace"
  | .dotInMark => "invalid configuration: operator_prefix must not contain '.'"

/-- Refuses operator marks that would make comparison keys look like field paths. -/
def Settings.validate (settings : Settings) : Except SettingsError Unit :=
  if settings.operatorMark.toList.any Text.isBlank then .error .blankInMark
  else if settings.operatorMark.toList.contains '.' then .error .dotInMark
  else .ok ()

/-- The text of the filter document that a search string compiles to. -/
def Settings.compileToText (settings : Settings) (search : Option String) : String :=
  (compileOptional settings.matching search).toText settings.operatorMark

end DocumentGateway.Search

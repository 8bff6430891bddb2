import DocumentGateway.Search.Literal
import DocumentGateway.Search.Term
import DocumentGateway.Json.Printer

/-!
# Search expressions

An expression constrains fields, each either to one value or by a set of comparisons.
Fields keep the order of their first mention and comparisons the order of their first
use. Binding a value forgets what the field held; adding a comparison joins the
comparisons present but replaces a bound value.
-/
namespace DocumentGateway.Search

/-- What one field is held to. -/
inductive Constraint where
  | literal (value : Scalar)
  | comparisons (operands : List (Comparison × Scalar))

/-- Constraints by field. -/
abbrev Expression := List (String × Constraint)

/-- One step in building an expression. -/
inductive Change where
  | bind (field : String) (value : Scalar)
  | compare (field : String) (comparison : Comparison) (operand : Scalar)

/-- The constraint of a field after one more comparison on it. -/
def Constraint.merge (held : Option Constraint) (comparison : Comparison) (operand : Scalar) :
    Constraint :=
  match held with
  | some (.comparisons operands) => .comparisons (Keyed.insert comparison operand operands)
  | _ => .comparisons [(comparison, operand)]

/-- Carries out one step. -/
def Expression.apply (expression : Expression) : Change → Expression
  | .bind field value => Keyed.insert field (.literal value) expression
  | .compare field comparison operand =>
    Keyed.insert field (.merge (Keyed.get? field expression) comparison operand) expression

/-- The JSON form of a constraint. The mark is put in front of every comparison tag. -/
def Constraint.toJson (mark : String) : Constraint → Json
  | .literal value => value.toJson
  | .comparisons operands =>
    .object (operands.map fun (comparison, operand) => (mark ++ comparison.tag, operand.toJson))

/-- The filter document of an expression. -/
def Expression.toDocument (mark : String) (expression : Expression) : Document :=
  expression.map fun (field, constraint) => (field, constraint.toJson mark)

/-- The filter document of an expression as text. -/
def Expression.toText (mark : String) (expression : Expression) : String :=
  (Json.object (expression.toDocument mark)).toText

/-- The mark of filter documents that the store understands. -/
def storeMark : String := "$"

end DocumentGateway.Search

import DocumentGateway.Json.Order
import DocumentGateway.Json.Path
import DocumentGateway.Search.Expression

/-!
# Satisfaction of search expressions

What it means for a document to satisfy an expression, said on the expression itself and
without a filter document in between. A constraint looks at the value at the path of its
field, and at the items of this value if it is an array. A missing value is no value at
all: it is not equal to anything and has no order, so of all constraints it satisfies
only those that ask for a difference.
-/
namespace DocumentGateway.Search

/-- Whether a value is the one that a scalar stands for. Numbers are equal if they stand
at the same place of the real line. -/
def Scalar.isValue : Scalar → Json → Bool
  | .number x, .number n => n.position == Decimal.position x
  | .boolean b, .bool value => value == b
  | .text raw, .string value => value == String.ofList raw
  | _, _ => false

/-- How a value of the same kind as an operand compares with it. -/
def Scalar.order? : Scalar → Json → Option Ordering
  | .number x, .number n => some (Ord.compare n.position (Decimal.position x))
  | .boolean b, .bool value => some (Ord.compare value b)
  | .text raw, .string value => some (Ord.compare value (String.ofList raw))
  | _, _ => none

/-- Whether the value at a path, or an item of it, passes a test. -/
def passes (test : Json → Bool) : Option Json → Bool
  | some (.array items) => test (.array items) || items.any test
  | some value => test value
  | none => false

/-- Whether the value at a path satisfies a comparison. -/
def Comparison.isSatisfied (comparison : Comparison) (operand : Scalar) (target : Option Json) :
    Bool :=
  match comparison with
  | .gte => passes (fun value => (operand.order? value).any fun order => order != .lt) target
  | .lte => passes (fun value => (operand.order? value).any fun order => order != .gt) target
  | .gt => passes (fun value => (operand.order? value).any fun order => order == .gt) target
  | .lt => passes (fun value => (operand.order? value).any fun order => order == .lt) target
  | .ne => !passes operand.isValue target

/-- Whether the value at a path satisfies what a field is held to. -/
def Constraint.isSatisfied : Constraint → Option Json → Bool
  | .literal value, target => passes value.isValue target
  | .comparisons operands, target =>
    operands.all fun (comparison, operand) => comparison.isSatisfied operand target

/-- Whether a document satisfies every constraint of an expression. -/
def Expression.isSatisfied (expression : Expression) (document : Document) : Bool :=
  expression.all fun (field, constraint) =>
    constraint.isSatisfied (Json.resolve document field)

end DocumentGateway.Search

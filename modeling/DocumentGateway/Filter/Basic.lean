import DocumentGateway.Json.Order
import DocumentGateway.Json.Path
import DocumentGateway.Pattern.Matching

/-!
# Filters

A filter says of every document whether it matches. It combines conditions on the
values found at paths. A condition on a path looks at the value there and, when that is
an array, also at its items; a missing value equals null and satisfies no comparison.
-/
namespace DocumentGateway

/-- The comparisons by order. -/
inductive Relation where
  | greater
  | atLeast
  | less
  | atMost
  deriving DecidableEq, Repr

/-- Whether a comparison result satisfies a relation. -/
def Relation.accepts : Relation → Ordering → Bool
  | .greater, ordering => ordering == .gt
  | .atLeast, ordering => ordering != .lt
  | .less, ordering => ordering == .lt
  | .atMost, ordering => ordering != .gt

/-- A condition on the value at one path. -/
inductive Predicate where
  | equal (operand : Json)
  | different (operand : Json)
  | ordered (relation : Relation) (bound : Json)
  | oneOf (operands : List Json)
  | noneOf (operands : List Json)
  | present (wanted : Bool)
  | fits (pattern : Pattern)
  | negated (predicate : Predicate)
  | every (predicates : List Predicate)

/-- A filter on documents. -/
inductive Filter where
  | every (clauses : List Filter)
  | either (clauses : List Filter)
  | neither (clauses : List Filter)
  | field (path : String) (predicate : Predicate)

/-- The values a condition looks at: the value itself and the items of an array. -/
def candidates : Option Json → List Json
  | none => []
  | some (.array items) => .array items :: items
  | some value => [value]

/-- Whether the value is the operand or an array that has it as an item. A missing
value counts as null. -/
def equalsOrContains (target : Option Json) (operand : Json) : Bool :=
  match target with
  | none => operand.same .null
  | some value => (candidates (some value)).any fun candidate => candidate.same operand

/-- Whether the value or an item of it stands in the relation to the bound. -/
def anyOrdered (relation : Relation) (target : Option Json) (bound : Json) : Bool :=
  (candidates target).any fun candidate =>
    (candidate.compareSameKind bound).any relation.accepts

/-- Whether a candidate is a string that the pattern matches. -/
def fitsText (pattern : Pattern) : Json → Bool
  | .string text => pattern.isMatch text
  | _ => false

mutual

/-- Whether the value at a path satisfies a condition. -/
def Predicate.matches : Predicate → Option Json → Bool
  | .equal operand, target => equalsOrContains target operand
  | .different operand, target => !equalsOrContains target operand
  | .ordered relation bound, target => anyOrdered relation target bound
  | .oneOf operands, target => operands.any (equalsOrContains target)
  | .noneOf operands, target => !operands.any (equalsOrContains target)
  | .present wanted, target => target.isSome == wanted
  | .fits pattern, target => (candidates target).any (fitsText pattern)
  | .negated predicate, target => !predicate.matches target
  | .every predicates, target => Predicate.allMatch predicates target

/-- Whether the value satisfies all conditions of a list. -/
def Predicate.allMatch : List Predicate → Option Json → Bool
  | [], _ => true
  | predicate :: rest, target => predicate.matches target && Predicate.allMatch rest target

end

mutual

/-- Whether a document matches a filter. -/
def Filter.matches : Filter → Document → Bool
  | .every clauses, document => Filter.allMatch clauses document
  | .either clauses, document => Filter.anyMatches clauses document
  | .neither clauses, document => !Filter.anyMatches clauses document
  | .field path predicate, document => predicate.matches (Json.resolve document path)

/-- Whether a document matches all filters of a list. -/
def Filter.allMatch : List Filter → Document → Bool
  | [], _ => true
  | clause :: rest, document => clause.matches document && Filter.allMatch rest document

/-- Whether a document matches some filter of a list. -/
def Filter.anyMatches : List Filter → Document → Bool
  | [], _ => false
  | clause :: rest, document => clause.matches document || Filter.anyMatches rest document

end

/-- The filter that every document matches. -/
def Filter.all : Filter :=
  .every []

/-- Whether a filter is the empty one. -/
def Filter.isAll : Filter → Bool
  | .every [] => true
  | _ => false

end DocumentGateway

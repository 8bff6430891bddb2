import DocumentGateway.Text.Cut

/-!
# Search terms

A search string is a row of terms separated by single spaces. A term is a field name,
an operator and a raw value. The operator is the first one of a fixed order whose
symbol occurs anywhere in the term, and the term is cut at the first occurrence of
that symbol, so the raw value may hold further symbols.
-/
namespace DocumentGateway.Search

/-- The comparisons a term can ask for besides plain equality. -/
inductive Comparison where
  | gte | lte | gt | lt | ne
  deriving DecidableEq, Repr

/-- What a term does with its raw value. -/
inductive Operator where
  | compare (comparison : Comparison)
  | equal
  deriving DecidableEq, Repr

/-- The short name of a comparison. -/
def Comparison.tag : Comparison → String
  | .gte => "gte"
  | .lte => "lte"
  | .gt => "gt"
  | .lt => "lt"
  | .ne => "ne"

/-- The characters that stand for an operator in a term. -/
def Operator.symbol : Operator → List Char
  | .compare .gte => ['>', '=']
  | .compare .lte => ['<', '=']
  | .compare .gt => ['>']
  | .compare .lt => ['<']
  | .compare .ne => ['!', ':']
  | .equal => [':']

/-- The comparison of an operator that is not plain equality. -/
def Operator.comparison? : Operator → Option Comparison
  | .compare comparison => some comparison
  | .equal => none

/-- The order in which operators are looked for. A symbol comes before those it
contains. -/
def precedence : List Operator :=
  [.compare .gte, .compare .lte, .compare .gt, .compare .lt, .compare .ne, .equal]

/-- A term taken apart. -/
structure Term where
  field : List Char
  operator : Operator
  raw : List Char
  deriving DecidableEq

/-- The name of the field that a term is about. -/
def Term.fieldName (term : Term) : String :=
  String.ofList term.field

/-- The terms of a search string. Neighbouring spaces have an empty term between them. -/
def terms (search : List Char) : List (List Char) :=
  Text.pieces ' ' search

/-- Cuts a term at the given operator. -/
def Term.cut? (operator : Operator) (term : List Char) : Option Term :=
  (Text.cutAt? operator.symbol term).map fun (field, raw) => ⟨field, operator, raw⟩

/-- Takes a term apart at the operator of highest precedence that occurs in it. -/
def Term.parse? (term : List Char) : Option Term :=
  precedence.findSome? fun operator => Term.cut? operator term

end DocumentGateway.Search

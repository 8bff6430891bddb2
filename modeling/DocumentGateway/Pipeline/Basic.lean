import DocumentGateway.Filter.Selection

/-!
# Pipelines

A pipeline is a row of stages. Each stage turns a list of documents into another: it
filters, sorts, cuts, reshapes, counts or groups them. A group is made of the documents
whose keys mean the same; groups stand in the order of their first members, and every
further field of a group is computed from its members in their order.
-/
namespace DocumentGateway

/-- A projection keeps or drops the named fields. The identifier is decided apart. -/
structure Projection where
  fields : List String
  keeps : Bool
  keepId : Bool

/-- What a group key or an accumulator reads from a document. -/
inductive Operand where
  | field (path : String)
  | constant (value : Json)

/-- The ways to compute one value from the members of a group. -/
inductive Accumulator where
  | sum
  | average
  | least
  | greatest
  | first
  | last
  | collect
  deriving DecidableEq, Repr

/-- A field of a group. -/
structure GroupField where
  name : String
  accumulator : Accumulator
  operand : Operand

/-- A grouping of documents. -/
structure Grouping where
  key : Operand
  fields : List GroupField

/-- One step of a pipeline. -/
inductive Stage where
  | select (filter : Filter)
  | sort (keys : List SortKey)
  | skip (count : Nat)
  | limit (count : Nat)
  | project (projection : Projection)
  | count (field : String)
  | group (grouping : Grouping)

/-- A row of stages, run from left to right. -/
abbrev Pipeline := List Stage

/-- Copies one field of a document into another, if it is there. -/
def Projection.copyField (source : Document) (kept : Document) (field : String) : Document :=
  match Json.resolve source field with
  | some value => Json.setPath (Json.segments field) value kept
  | none => kept

/-- The identifier member of a document, if it has one. -/
def idMember (document : Document) : Document :=
  match Keyed.get? "_id" document with
  | some id => [("_id", id)]
  | none => []

/-- The document a projection makes of a document. -/
def Projection.apply (projection : Projection) (document : Document) : Document :=
  if projection.keeps then
    projection.fields.foldl (Projection.copyField document)
      (if projection.keepId then idMember document else [])
  else
    projection.fields.foldl (fun kept field => Json.removePath (Json.segments field) kept)
      (if projection.keepId then document else Keyed.swapRemove "_id" document)

/-- The value an operand reads from a document. -/
def Operand.eval (operand : Operand) (document : Document) : Option Json :=
  match operand with
  | .field path => Json.resolve document path
  | .constant value => some value

/-- The floating-point numbers among values that may be missing. -/
def numbersOf (values : List (Option Json)) : List Float :=
  values.filterMap fun value =>
    match value with
    | some (.number n) => some n.toFloat
    | _ => none

/-- The sum of numbers, added from left to right. -/
def total (numbers : List Float) : Float :=
  numbers.foldl (· + ·) 0

/-- Takes over a value when there is none yet or when it compares as wanted to the one
held. -/
def moreExtreme (wanted : Ordering) (held : Option Json) (value : Json) : Option Json :=
  match held with
  | some best => if value.compare best == wanted then some value else some best
  | none => some value

/-- Whether a value is null. -/
def Json.isNull : Json → Bool
  | .null => true
  | _ => false

/-- The first of the most extreme values, leaving out missing values and nulls. -/
def extreme (wanted : Ordering) (values : List (Option Json)) : Json :=
  (((values.filterMap id).filter (!·.isNull)).foldl (moreExtreme wanted) none).getD .null

/-- Computes the value of an accumulator. -/
def Accumulator.apply (accumulator : Accumulator) (values : List (Option Json)) : Json :=
  match accumulator with
  | .sum => Json.ofFloat (total (numbersOf values))
  | .average =>
    match numbersOf values with
    | [] => .null
    | numbers => Json.ofFloat (total numbers / Float.ofNat numbers.length)
  | .least => extreme .lt values
  | .greatest => extreme .gt values
  | .first => (values.head?.join).getD .null
  | .last => (values.getLast?.join).getD .null
  | .collect => .array (values.filterMap id)

/-- A group in the making: its key and its members in order. -/
structure Group where
  key : Json
  members : List Document

/-- Puts a document into the first group whose key means the same, or into a new group
at the end. -/
def joinGroup (key : Json) (document : Document) : List Group → List Group
  | [] => [⟨key, [document]⟩]
  | group :: rest =>
    if group.key.same key then { group with members := group.members ++ [document] } :: rest
    else group :: joinGroup key document rest

/-- The key of a document, null when it is missing. -/
def Grouping.keyOf (grouping : Grouping) (document : Document) : Json :=
  (grouping.key.eval document).getD .null

/-- The groups of a list of documents. -/
def Grouping.groups (grouping : Grouping) (documents : List Document) : List Group :=
  documents.foldl (fun groups document => joinGroup (grouping.keyOf document) document groups) []

/-- The document that stands for a group. -/
def Grouping.summary (grouping : Grouping) (group : Group) : Document :=
  grouping.fields.foldl (fun summary field =>
    Keyed.insert field.name (field.accumulator.apply (group.members.map field.operand.eval)) summary)
    [("_id", group.key)]

/-- The documents a grouping makes of a list of documents. -/
def Grouping.apply (grouping : Grouping) (documents : List Document) : List Document :=
  (grouping.groups documents).map grouping.summary

/-- Runs one stage. Counting no documents gives no document. -/
def Stage.run (stage : Stage) (documents : List Document) : List Document :=
  match stage with
  | .select filter => documents.filter filter.matches
  | .sort keys => sortDocuments keys documents
  | .skip n => documents.drop n
  | .limit n => documents.take n
  | .project projection => documents.map projection.apply
  | .count field => if documents.isEmpty then [] else [[(field, Json.ofNat documents.length)]]
  | .group grouping => grouping.apply documents

/-- Runs all stages. -/
def Pipeline.run (pipeline : Pipeline) (documents : List Document) : List Document :=
  pipeline.foldl (fun documents stage => stage.run documents) documents

end DocumentGateway

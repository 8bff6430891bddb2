import DocumentGateway.Pipeline.Basic

/-!
# Reading pipelines

A pipeline is written as an array of objects with one member each, whose name says
which stage it is. The first stage that is refused gives the error, together with its
place in the array.
-/
namespace DocumentGateway

/-- Why a stage is refused. -/
inductive StageError where
  | oneMemberExpected
  | badFilter (cause : FilterError)
  | countExpected (stage : String)
  | limitNotPositive
  | fieldNameExpected
  | sortKeysExpected
  | badSortDirection (field : String)
  | projectionExpected
  | badProjection (field : String)
  | mixedProjection
  | groupingExpected
  | keyExpected
  | accumulatorExpected (field : String)
  | unknownAccumulator (operator field : String)
  | unknownStage (stage : String)
  deriving DecidableEq, Repr

/-- Why a pipeline is refused. -/
inductive PipelineError where
  | notJson
  | notArray (kind : String)
  | badStage (place : Nat) (cause : StageError)
  deriving DecidableEq, Repr

/-- The wording of a refused stage. -/
def StageError.message : StageError → String
  | .oneMemberExpected => "each stage must be an object with exactly one key"
  | .badFilter cause => "Invalid filter: " ++ cause.message
  | .countExpected stage => "'" ++ stage ++ "' expects a non-negative integer"
  | .limitNotPositive => "'$limit' must be positive"
  | .fieldNameExpected => "'$count' expects a non-empty field name"
  | .sortKeysExpected => "'$sort' expects a non-empty object"
  | .badSortDirection field => "sort direction for '" ++ field ++ "' must be 1 or -1"
  | .projectionExpected => "'$project' expects a non-empty object"
  | .badProjection field => "projection of '" ++ field ++ "' must be 0 or 1"
  | .mixedProjection => "cannot mix inclusion and exclusion in '$project'"
  | .groupingExpected => "'$group' expects an object"
  | .keyExpected => "'$group' requires an '_id' expression"
  | .accumulatorExpected field =>
    "accumulator '" ++ field ++ "' must be an object with one operator"
  | .unknownAccumulator operator field =>
    "unknown accumulator '" ++ operator ++ "' for '" ++ field ++ "'"
  | .unknownStage stage => "unknown stage '" ++ stage ++ "'"

/-- The wording of a refused pipeline. -/
def PipelineError.message : PipelineError → String
  | .notJson => "pipeline is not valid JSON"
  | .notArray kind => "pipeline must be an array of stages, got " ++ kind
  | .badStage place cause => "stage " ++ toString place ++ ": " ++ cause.message

/-- The operand a value describes: a string of a `$` and more is a field, and anything
else stands for itself. -/
def Operand.ofJson (value : Json) : Operand :=
  match value with
  | .string text =>
    match text.toList with
    | '$' :: c :: rest => .field (String.ofList (c :: rest))
    | _ => .constant value
  | _ => .constant value

/-- A count of documents. -/
def readCount (stage : String) (spec : Json) : Except StageError Nat :=
  match spec with
  | .number n =>
    match n.toNat? with
    | some count => .ok count
    | none => .error (.countExpected stage)
  | _ => .error (.countExpected stage)

/-- A sort key with its direction as a number. -/
def readSortKey (member : String × Json) : Except StageError SortKey :=
  match Direction.ofJson? member.2 with
  | some direction => .ok ⟨member.1, direction⟩
  | none => .error (.badSortDirection member.1)

/-- The keys of a sort stage. -/
def readSortKeys (spec : Json) : Except StageError (List SortKey) :=
  match spec with
  | .object (member :: members) => (member :: members).mapM readSortKey
  | _ => .error .sortKeysExpected

/-- Whether a field of a projection is wanted. -/
def projectionFlag? : Json → Option Bool
  | .bool value => some value
  | .number n => some (n.position != 0)
  | _ => none

/-- Reads the fields of a projection. All but the identifier have to agree on whether
they are kept or dropped. -/
def readProjectionFields : Document → Projection → Option Bool → Except StageError (Projection × Option Bool)
  | [], projection, mode => .ok (projection, mode)
  | (field, spec) :: rest, projection, mode =>
    match projectionFlag? spec with
    | none => .error (.badProjection field)
    | some flag =>
      if field = "_id" then readProjectionFields rest { projection with keepId := flag } mode
      else if mode.any (· != flag) then .error .mixedProjection
      else
        readProjectionFields rest { projection with fields := projection.fields ++ [field] } (some flag)

/-- The projection of a project stage. When only the identifier is named, it alone
decides whether fields are kept or dropped. -/
def readProjection (spec : Json) : Except StageError Projection :=
  match spec with
  | .object (member :: members) =>
    (readProjectionFields (member :: members) ⟨[], true, true⟩ none).map fun (projection, mode) =>
      { projection with keeps := mode.getD projection.keepId }
  | _ => .error .projectionExpected

/-- The accumulator with the given operator. -/
def Accumulator.ofOperator? (operator : String) : Option Accumulator :=
  match operator with
  | "$sum" => some .sum
  | "$avg" => some .average
  | "$min" => some .least
  | "$max" => some .greatest
  | "$first" => some .first
  | "$last" => some .last
  | "$push" => some .collect
  | _ => none

/-- A field of a group. -/
def readGroupField (member : String × Json) : Except StageError GroupField :=
  match member.2 with
  | .object [(operator, operand)] =>
    match Accumulator.ofOperator? operator with
    | some accumulator => .ok ⟨member.1, accumulator, Operand.ofJson operand⟩
    | none => .error (.unknownAccumulator operator member.1)
  | _ => .error (.accumulatorExpected member.1)

/-- The grouping of a group stage. -/
def readGrouping (spec : Json) : Except StageError Grouping :=
  match spec with
  | .object members =>
    match Keyed.get? "_id" members with
    | some key =>
      ((members.filter fun member => member.1 != "_id").mapM readGroupField).map fun fields =>
        ⟨Operand.ofJson key, fields⟩
    | none => .error .keyExpected
  | _ => .error .groupingExpected

/-- Whether a text may name the field of a count. -/
def isCountField (field : String) : Bool :=
  !field.isEmpty && field.toList.head? != some '$' && !field.toList.contains '.'

/-- The stage with the given name. -/
def readStageSpec (stage : String) (spec : Json) : Except StageError Stage :=
  match stage with
  | "$match" =>
    match Filter.ofJson spec with
    | .ok filter => .ok (.select filter)
    | .error cause => .error (.badFilter cause)
  | "$sort" => (readSortKeys spec).map .sort
  | "$skip" => (readCount stage spec).map .skip
  | "$limit" =>
    (readCount stage spec).bind fun count =>
      if count = 0 then .error .limitNotPositive else .ok (.limit count)
  | "$project" => (readProjection spec).map .project
  | "$count" =>
    match spec with
    | .string field => if isCountField field then .ok (.count field) else .error .fieldNameExpected
    | _ => .error .fieldNameExpected
  | "$group" => (readGrouping spec).map .group
  | other => .error (.unknownStage other)

/-- One stage of a pipeline. -/
def Stage.ofJson (value : Json) : Except StageError Stage :=
  match value with
  | .object [(stage, spec)] => readStageSpec stage spec
  | _ => .error .oneMemberExpected

/-- The stages from a place of the array on. -/
def readStages : Nat → List Json → Except PipelineError Pipeline
  | _, [] => .ok []
  | place, value :: rest =>
    match Stage.ofJson value with
    | .ok stage => (readStages (place + 1) rest).map (stage :: ·)
    | .error cause => .error (.badStage place cause)

/-- The pipeline a JSON value describes. -/
def Pipeline.ofJson (value : Json) : Except PipelineError Pipeline :=
  match value with
  | .array stages => readStages 0 stages
  | value => .error (.notArray value.kindName)

/-- The pipeline a text describes. Blank text describes the pipeline without stages. -/
def Pipeline.ofText (text : String) : Except PipelineError Pipeline :=
  if Text.isBlankText text then .ok []
  else match Json.ofText? text with
    | some value => Pipeline.ofJson value
    | none => .error .notJson

end DocumentGateway

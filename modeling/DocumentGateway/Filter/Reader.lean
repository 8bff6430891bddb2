import DocumentGateway.Filter.Basic
import DocumentGateway.Json.Reader
import DocumentGateway.Pattern.Reader
import DocumentGateway.Text.Blank

/-!
# Reading filters

A filter document is an object whose members are all required. The members `$and`,
`$or` and `$nor` combine further filter documents; any other member puts a condition on
the path it names. A condition is an object of operators, recognised by its member
names beginning with `$`, or else a value to be equal to. Clauses and operators nest at
most 32 deep below the filter document.
-/
namespace DocumentGateway

/-- Why a filter is refused. -/
inductive FilterError where
  | notJson
  | tooDeep
  | notObject (kind : String)
  | clausesExpected (operator : String)
  | unknownOperator (operator : String)
  | mixedMembers
  | optionsNotText (path : String)
  | optionsAlone (path : String)
  | arrayExpected (operator path : String)
  | patternNotText (path : String)
  | unsupportedOption (option : Char) (path : String)
  | badPattern (path : String)
  | operatorsExpected (path : String)
  | unknownCondition (operator path : String)
  | badDirection (word : String)
  deriving DecidableEq, Repr

/-- The deepest nesting of clauses and operators. -/
def Filter.maxDepth : Nat := 32

/-- The wording of a refusal. -/
def FilterError.message : FilterError → String
  | .notJson => "filter is not valid JSON"
  | .tooDeep => "filter nesting exceeds maximum of " ++ toString Filter.maxDepth
  | .notObject kind => "filter must be a JSON object, got " ++ kind
  | .clausesExpected operator =>
    "'" ++ operator ++ "' expects a non-empty array of filter documents"
  | .unknownOperator operator => "unknown top-level operator '" ++ operator ++ "'"
  | .mixedMembers => "cannot mix operators and plain fields in one field condition"
  | .optionsNotText path => "'$options' on '" ++ path ++ "' must be a string"
  | .optionsAlone path => "'$options' on '" ++ path ++ "' requires '$regex'"
  | .arrayExpected operator path => "'" ++ operator ++ "' on '" ++ path ++ "' expects an array"
  | .patternNotText path => "'$regex' on '" ++ path ++ "' must be a string"
  | .unsupportedOption option path =>
    "unsupported regex option '" ++ String.singleton option ++ "' on '" ++ path ++ "'"
  | .badPattern path => "bad regex on '" ++ path ++ "'"
  | .operatorsExpected path => "'$not' on '" ++ path ++ "' expects an operator object"
  | .unknownCondition operator path =>
    "unknown operator '" ++ operator ++ "' on field '" ++ path ++ "'"
  | .badDirection word => "sort order must be 'asc' or 'desc', got '" ++ word ++ "'"

/-- Whether a member name denotes an operator. -/
def isOperatorKey (key : String) : Bool :=
  key.toList.head? = some '$'

/-- What the member names of an object say about it as a condition. -/
inductive Shape where
  | plain
  | operators
  | mixed
  deriving DecidableEq, Repr

/-- The shape of an object. One without members is plain. -/
def shape (members : Document) : Shape :=
  if members.all fun member => !isOperatorKey member.1 then .plain
  else if members.all fun member => isOperatorKey member.1 then .operators
  else .mixed

/-- The truth of an operand: false, null and the number zero are false. -/
def truth : Json → Bool
  | .bool value => value
  | .number n => n.position != 0
  | .null => false
  | _ => true

/-- The pattern flags written as option letters. -/
def readOptions (path : String) : List Char → Pattern.Flags → Except FilterError Pattern.Flags
  | [], flags => .ok flags
  | 'i' :: rest, flags => readOptions path rest { flags with anyCase := true }
  | 'm' :: rest, flags => readOptions path rest { flags with lines := true }
  | 's' :: rest, flags => readOptions path rest { flags with dotAll := true }
  | 'x' :: rest, flags => readOptions path rest { flags with spaced := true }
  | option :: _, _ => .error (.unsupportedOption option path)

/-- The pattern of an operand under the given options. -/
def readPattern (path : String) (options : Option String) : Json → Except FilterError Pattern
  | .string text =>
    (readOptions path (options.getD "").toList {}).bind fun flags =>
      match Pattern.read? flags text.toList with
      | some pattern => .ok pattern
      | none => .error (.badPattern path)
  | _ => .error (.patternNotText path)

/-- The items of an operand that has to be an array. -/
def operandItems (operator path : String) : Json → Except FilterError (List Json)
  | .array items => .ok items
  | _ => .error (.arrayExpected operator path)

/-- What is checked of an object of operators as a whole: its depth and that options
are text beside a pattern. Answers the options. -/
def checkOperators (depth : Nat) (path : String) (members : Document) :
    Except FilterError (Option String) :=
  if Filter.maxDepth < depth then .error .tooDeep
  else match Keyed.get? "$options" members with
    | none => .ok none
    | some (.string options) =>
      if Keyed.contains "$regex" members then .ok (some options) else .error (.optionsAlone path)
    | some _ => .error (.optionsNotText path)

/-- One condition stands for itself, and several are all required. -/
def joinPredicates : List Predicate → Predicate
  | [predicate] => predicate
  | predicates => .every predicates

/-- One clause stands for itself, and several are all required. -/
def joinFilters : List Filter → Filter
  | [filter] => filter
  | filters => .every filters

/-- The conditions of an object of operators, in its order. -/
def readOperators (depth : Nat) (path : String) (options : Option String) :
    List (String × Json) → Except FilterError (List Predicate)
  | [] => .ok []
  | (operator, operand) :: rest => do
    let head : Option Predicate ← match operator with
      | "$eq" => .ok (some (.equal operand))
      | "$ne" => .ok (some (.different operand))
      | "$gt" => .ok (some (.ordered .greater operand))
      | "$gte" => .ok (some (.ordered .atLeast operand))
      | "$lt" => .ok (some (.ordered .less operand))
      | "$lte" => .ok (some (.ordered .atMost operand))
      | "$in" => (operandItems operator path operand).map fun items => some (.oneOf items)
      | "$nin" => (operandItems operator path operand).map fun items => some (.noneOf items)
      | "$exists" => .ok (some (.present (truth operand)))
      | "$regex" => (readPattern path options operand).map fun pattern => some (.fits pattern)
      | "$options" => .ok none
      | "$not" =>
        match operand with
        | .object members =>
          match shape members with
          | .mixed => .error .mixedMembers
          | .plain => .error (.operatorsExpected path)
          | .operators => do
            let options ← checkOperators (depth + 1) path members
            let predicates ← readOperators (depth + 1) path options members
            .ok (some (.negated (joinPredicates predicates)))
        | _ => .error (.operatorsExpected path)
      | other => .error (.unknownCondition other path)
    let others ← readOperators depth path options rest
    .ok (head.toList ++ others)

/-- The condition that a member of a filter document puts on its path. -/
def readCondition (depth : Nat) (path : String) : Json → Except FilterError Predicate
  | .object members =>
    match shape members with
    | .mixed => .error .mixedMembers
    | .plain => .ok (.equal (.object members))
    | .operators => do
      let options ← checkOperators depth path members
      let predicates ← readOperators depth path options members
      .ok (joinPredicates predicates)
  | value => .ok (.equal value)

mutual

/-- The filter of a filter document. -/
def readFilter (depth : Nat) : Json → Except FilterError Filter
  | .object members =>
    if Filter.maxDepth < depth then .error .tooDeep
    else (readMembers depth members).map joinFilters
  | value =>
    if Filter.maxDepth < depth then .error .tooDeep else .error (.notObject value.kindName)

/-- The clauses of the members of a filter document, in their order. -/
def readMembers (depth : Nat) : List (String × Json) → Except FilterError (List Filter)
  | [] => .ok []
  | (key, value) :: rest => do
    let clause : Filter ← match key with
      | "$and" => (readClauses depth key value).map .every
      | "$or" => (readClauses depth key value).map .either
      | "$nor" => (readClauses depth key value).map .neither
      | key =>
        if isOperatorKey key then .error (.unknownOperator key)
        else (readCondition depth key value).map (.field key)
    let others ← readMembers depth rest
    .ok (clause :: others)

/-- The filters of a clause list, which must not be empty. -/
def readClauses (depth : Nat) (operator : String) : Json → Except FilterError (List Filter)
  | .array (item :: items) => readFilters (depth + 1) (item :: items)
  | _ => .error (.clausesExpected operator)

/-- The filters of several filter documents. -/
def readFilters (depth : Nat) : List Json → Except FilterError (List Filter)
  | [] => .ok []
  | item :: rest => do
    let filter ← readFilter depth item
    let others ← readFilters depth rest
    .ok (filter :: others)

end

/-- The filter a JSON value describes. -/
def Filter.ofJson (value : Json) : Except FilterError Filter :=
  readFilter 0 value

/-- The filter a text describes. Blank text describes the filter that every document
matches. -/
def Filter.ofText (text : String) : Except FilterError Filter :=
  if Text.isBlankText text then .ok .all
  else match Json.ofText? text with
    | some value => Filter.ofJson value
    | none => .error .notJson

end DocumentGateway

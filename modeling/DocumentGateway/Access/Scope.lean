import DocumentGateway.Text.Cut

/-!
# Scopes

A scope names one action on one collection by five parts with dots between them: the
system, the service, the database, the collection and the action. A granted scope may
hold stars, and each star stands for exactly one segment between dots. Names with dots
in them count as several segments, on either side.
-/
namespace DocumentGateway

/-- What a request does to a collection. -/
inductive Permission where
  | read | insert | update | delete
  deriving DecidableEq, Repr

namespace Permission

/-- The name of an action, as it stands in a scope. -/
def name : Permission → String
  | read => "read"
  | insert => "insert"
  | update => "update"
  | delete => "delete"

/-- All actions. -/
def all : List Permission :=
  [read, insert, update, delete]

end Permission

/-- The names that stand in front of every scope. -/
structure ScopeRoot where
  system : String
  service : String
  deriving DecidableEq, Repr

/-- The scope of an action on a collection. -/
def ScopeRoot.scope (root : ScopeRoot) (database collection : String) (permission : Permission) :
    String :=
  Text.join "." [root.system, root.service, database, collection, permission.name]

/-- Whether a granted segment covers a required one. -/
def coversSegment (granted required : List Char) : Bool :=
  granted = ['*'] || granted = required

/-- Whether granted segments cover required ones, one by one. -/
def coversSegments : List (List Char) → List (List Char) → Bool
  | [], [] => true
  | granted :: moreGranted, required :: moreRequired =>
    coversSegment granted required && coversSegments moreGranted moreRequired
  | _, _ => false

/-- Whether a granted scope covers a required one. Every scope covers itself, and only one
with a star is looked at segment by segment. -/
def covers (granted required : String) : Bool :=
  if granted = required then true
  else if granted.toList.contains '*' then
    coversSegments (Text.pieces '.' granted.toList) (Text.pieces '.' required.toList)
  else false

/-- Whoever makes a request: a short name for the records, and the scopes granted. -/
structure Principal where
  keyId : String
  scopes : List String
  deriving DecidableEq, Repr

namespace Principal

/-- Whether one of the granted scopes covers the required one. -/
def hasScope (principal : Principal) (required : String) : Bool :=
  principal.scopes.any fun granted => covers granted required

end Principal

end DocumentGateway

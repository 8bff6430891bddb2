import DocumentGateway.Access.Scope
import DocumentGateway.Http.Percent

/-!
# Routes

The path of a request is cut at its slashes. Under the base of the data routes a path
names a collection or an object in one, or one of the queries on a collection. Where a
fixed word stands in the place of an identifier, the path still names the object with
that identifier for all methods that the query does not take; and where a fixed word
stands in the place of a database, the path names an object in the database of that
name, except for posting. The last segment of a path is never empty.

Paths are matched as they are written. The names in them are percent-decoded only when
the route is found.
-/
namespace DocumentGateway

/-- What a data request does to a collection. -/
inductive Action where
  | getAll
  | insertNew
  | dropCollection
  | get (id : String)
  | insert (id : String)
  | replace (id : String)
  | delete (id : String)
  | find
  | search
  | explain
  | count
  | distinct (field : String)
  | aggregate
  | insertMany
  | insertCsv
  deriving DecidableEq, Repr

/-- The permission that an action needs. -/
def Action.permission : Action → Permission
  | getAll => .read
  | insertNew => .insert
  | dropCollection => .delete
  | get _ => .read
  | insert _ => .insert
  | replace _ => .update
  | delete _ => .delete
  | find => .read
  | search => .read
  | explain => .read
  | count => .read
  | distinct _ => .read
  | aggregate => .read
  | insertMany => .insert
  | insertCsv => .insert

/-- An action on a collection. -/
structure Endpoint where
  database : String
  collection : String
  action : Action
  deriving DecidableEq, Repr

/-- What the path of a data request names. -/
inductive Route where
  | wholeCollection (database collection : String)
  | object (database collection id : String)
  | query (database collection word : String) (action : Action)
  | search (database collection : String)
  | explain (database collection : String)
  | distinct (database collection field : String)
  | load (word : String) (action : Action) (first second : String)
  deriving DecidableEq, Repr

namespace Route

/-- The action of posting to a word in the place of an identifier. -/
def queryWord? : String → Option Action
  | "find" => some .find
  | "count" => some .count
  | "aggregate" => some .aggregate
  | _ => none

/-- The action of posting to a word in the place of a database. -/
def loadWord? : String → Option Action
  | "multi" => some .insertMany
  | "bulk" => some .insertCsv
  | _ => none

/-- The route of three segments. -/
def ofThree (first second third : String) : Route :=
  match loadWord? first with
  | some action => .load first action second third
  | none =>
    if third = "search" then .search first second
    else match queryWord? third with
      | some action => .query first second third action
      | none => .object first second third

/-- The route of the segments behind the base. -/
def ofSegments? : List String → Option Route
  | [database, collection] =>
    if collection.isEmpty then none else some (.wholeCollection database collection)
  | [first, second, third] => if third.isEmpty then none else some (ofThree first second third)
  | [database, collection, third, last] =>
    if third = "search" ∧ last = "explain" then some (.explain database collection)
    else if third = "distinct" ∧ ¬last.isEmpty then some (.distinct database collection last)
    else none
  | _ => none

/-- The action of a method on a collection. -/
def collectionAction? : String → Option Action
  | "GET" => some .getAll
  | "POST" => some .insertNew
  | "DELETE" => some .dropCollection
  | _ => none

/-- The action of a method on the object with an identifier. -/
def objectAction? (id : String) : String → Option Action
  | "GET" => some (.get id)
  | "POST" => some (.insert id)
  | "PUT" => some (.replace id)
  | "DELETE" => some (.delete id)
  | _ => none

/-- The endpoint of a method on a route, if the route takes the method. -/
def endpoint? (route : Route) (method : String) : Option Endpoint :=
  match route with
  | .wholeCollection database collection =>
    (collectionAction? method).map (Endpoint.mk database collection)
  | .object database collection id =>
    (objectAction? id method).map (Endpoint.mk database collection)
  | .query database collection word action =>
    if method = "POST" then some ⟨database, collection, action⟩
    else (objectAction? word method).map (Endpoint.mk database collection)
  | .search database collection =>
    if method = "GET" then some ⟨database, collection, .search⟩
    else if method = "POST" then none
    else (objectAction? "search" method).map (Endpoint.mk database collection)
  | .explain database collection =>
    if method = "GET" then some ⟨database, collection, .explain⟩ else none
  | .distinct database collection field =>
    if method = "POST" then some ⟨database, collection, .distinct field⟩ else none
  | .load word action first second =>
    if method = "POST" then some ⟨first, second, action⟩
    else (objectAction? second method).map (Endpoint.mk word first)

end Route

/-! ## Names in paths -/

/-- The action with its name percent-decoded. -/
def Action.decode? : Action → Option Action
  | .get id => (Http.segmentText? id).map .get
  | .insert id => (Http.segmentText? id).map .insert
  | .replace id => (Http.segmentText? id).map .replace
  | .delete id => (Http.segmentText? id).map .delete
  | .distinct field => (Http.segmentText? field).map .distinct
  | action => some action

/-- The endpoint with all names percent-decoded, if all of them are text. -/
def Endpoint.decode? (endpoint : Endpoint) : Option Endpoint := do
  let database ← Http.segmentText? endpoint.database
  let collection ← Http.segmentText? endpoint.collection
  let action ← endpoint.action.decode?
  some ⟨database, collection, action⟩

/-! ## Paths -/

/-- The base of all data routes. -/
def apiBase : String := "/api/1.0"

/-- The pages that are shown to everyone. -/
inductive PublicPage where
  | info
  | liveness
  | readiness
  | metrics
  deriving DecidableEq, Repr

/-- The page at a path. -/
def PublicPage.ofPath? (path : String) : Option PublicPage :=
  match path with
  | "/" => some .info
  | "/health/live" => some .liveness
  | "/health/ready" => some .readiness
  | "/metrics" => some .metrics
  | _ => none

/-- The segments behind the base, if a path starts with the base and a slash. -/
def apiSegments? (path : List Char) : Option (List String) :=
  ((apiBase ++ "/").toList.isPrefixOf? path).map fun rest =>
    (Text.pieces '/' rest).map String.ofList

/-- The route at a path. -/
def Route.ofPath? (path : List Char) : Option Route :=
  (apiSegments? path).bind ofSegments?

end DocumentGateway

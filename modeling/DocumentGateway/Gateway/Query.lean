import DocumentGateway.Config.Setting
import DocumentGateway.Decimal.Reading
import DocumentGateway.Filter.Selection
import DocumentGateway.Gateway.Error

/-!
# Parameters of a request

The query of a request may hold parameters: which page of the found documents is
wanted and in which order, what a search looks for, and in which format a written
document is answered. Parameters that a request does not know are passed over; one that
it knows must be readable and may not come twice.
-/
namespace DocumentGateway

open Config

/-- The least and the greatest integer of 64 bits. -/
def int64Bounds : Int × Int :=
  (-(Nat.pow 2 63), Nat.pow 2 63 - 1)

/-- The parameters of a query, where every value is a text and may pass for an integer. -/
def queryParameters (pairs : List (String × String)) : Setting :=
  .section false (pairs.map fun (name, text) =>
    (.ofName name, .value { ownText := some text, text := some text,
                            integer := Decimal.integer? text.toList }))

/-- Which part of the found documents is wanted, and in which order. -/
structure Paging where
  start : Option Int := none
  size : Option Int := none
  sort : Option String := none
  order : Option String := none
  deriving DecidableEq, Repr

namespace Paging

/-- The names of the parameters. -/
def names : List String :=
  ["start", "size", "sort", "order"]

/-- The parameters among some entries. -/
def ofEntries? (entries : Entries) : Option Paging := do
  let integer := Setting.optionalInteger? int64Bounds.1 int64Bounds.2
  let start ← Entries.read? entries "start" none integer
  let size ← Entries.read? entries "size" none integer
  let sort ← Entries.read? entries "sort" none Setting.optionalText?
  let order ← Entries.read? entries "order" none Setting.optionalText?
  some { start, size, sort, order }

/-- The parameters of a query. -/
def ofSetting? (setting : Setting) : Option Paging :=
  (setting.entries? names).bind ofEntries?

/-- The direction that the parameters ask for. -/
def direction (paging : Paging) : Except GatewayError Direction :=
  match paging.order with
  | some word =>
    (Direction.ofWord word).mapError fun error => .store (.invalidFilter error.message)
  | none => .ok .ascending

/-- The key to sort by, if there is one. Without a field the order is not looked at. -/
def sortKey (paging : Paging) : Except GatewayError (Option SortKey) :=
  match paging.sort with
  | some field =>
    if field.isEmpty then .ok none
    else paging.direction.map fun direction => some ⟨field, direction⟩
  | none => .ok none

/-- The selection that the parameters ask for. A start must not be negative, and of the
negative sizes only -1 stands for no limit. -/
def selection (paging : Paging) : Except GatewayError Selection := do
  let start := paging.start.getD 0
  let size := paging.size.getD (-1)
  if start < 0 then
    .error (.badRequest ("start must be 0 or greater, got " ++ toString start))
  else if size < -1 then
    .error (.badRequest ("size must be -1 or greater, got " ++ toString size))
  else do
    let sort ← paging.sortKey
    .ok { Selection.paged start size with sort }

end Paging

/-- The parameters of a search: the search string and the paging. -/
structure SearchParameters where
  search : Option String := none
  paging : Paging := {}
  deriving DecidableEq, Repr

/-- The parameters of a search among those of a query. -/
def SearchParameters.ofSetting? (setting : Setting) : Option SearchParameters := do
  let entries ← setting.entries? ("qs" :: Paging.names)
  let search ← Entries.read? entries "qs" none Setting.optionalText?
  let paging ← Paging.ofEntries? entries
  some { search, paging }

/-- How a written document is answered. -/
inductive ResponseFormat where
  | entireObject
  | onlyId
  deriving DecidableEq, Repr

/-- The format with the given name or number. -/
def ResponseFormat.ofName? : String → Option ResponseFormat
  | "entireObject" => some .entireObject
  | "EntireObject" => some .entireObject
  | "0" => some .entireObject
  | "onlyId" => some .onlyId
  | "OnlyId" => some .onlyId
  | "1" => some .onlyId
  | _ => none

/-- The format that a query asks for: the entire object unless it says otherwise. -/
def ResponseFormat.ofSetting? (setting : Setting) : Option ResponseFormat := do
  let entries ← setting.entries? ["responseFormat"]
  Entries.read? entries "responseFormat" .entireObject fun value => value.choice?.bind ofName?

end DocumentGateway

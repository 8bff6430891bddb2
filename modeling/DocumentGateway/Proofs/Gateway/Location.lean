import DocumentGateway.Gateway.Handler
import DocumentGateway.Proofs.Http.Path
import DocumentGateway.Proofs.Store.Representation
import DocumentGateway.Proofs.Text.Cut

/-!
# Places of documents

The place of a document is put together from the names as they are, and a request for it is
cut at the slashes again. If the names mean themselves in a path and the identifier holds no
slash, the request comes to the three names. What it asks for is then the document with the
identifier, apart from the one identifier that is the word of a query for the method. The
words in the place of a database are queries of another method.
-/
namespace DocumentGateway

open Http (Verbatim)

/-- Names that a place gives back: they mean themselves in a path, and the identifier is a
single segment. A place that is requested is taken for a target as it is: if a space, an angle
bracket or a backtick is in a name, no real request has this target. -/
structure Placeable (database collection id : String) : Prop where
  databaseVerbatim : Verbatim database
  collectionVerbatim : Verbatim collection
  idVerbatim : Verbatim id
  oneSegment : '/' ∉ id.toList

/-- The characters of a place: the base, and the three names with slashes between them. -/
theorem toList_documentLocation (database collection id : String) :
    (documentLocation database collection id).toList =
      (apiBase ++ "/").toList ++
        (database.toList ++ '/' :: (collection.toList ++ '/' :: id.toList)) := by
  simp [documentLocation]

/-- Different identifiers have different places in a collection. -/
theorem documentLocation_inj {database collection left right : String}
    (same : documentLocation database collection left = documentLocation database collection right) :
    left = right := by
  have texts := congrArg String.toList same
  rw [toList_documentLocation, toList_documentLocation] at texts
  exact String.toList_injective (by simpa using texts)

/-- The place is read as the three names it was put together from. -/
theorem apiSegments?_documentLocation {database collection id : String}
    (databaseSegment : '/' ∉ database.toList) (collectionSegment : '/' ∉ collection.toList)
    (idSegment : '/' ∉ id.toList) :
    apiSegments? (documentLocation database collection id).toList =
      some [database, collection, id] := by
  have behindBase := (isPrefixOf?_eq_some_iff _ _ _).mpr
    (toList_documentLocation database collection id)
  rw [apiSegments?, behindBase, Option.map_some, Text.pieces_append _ databaseSegment,
    Text.pieces_append _ collectionSegment, Text.pieces_eq_singleton idSegment]
  simp

/-- A place holds what stands in its names, in the base, and slashes. -/
theorem notMem_documentLocation {c : Char} {database collection id : String}
    (notInBase : c ∉ (apiBase ++ "/").toList) (notSlash : c ≠ '/') (notInDatabase : c ∉ database.toList)
    (notInCollection : c ∉ collection.toList) (notInId : c ∉ id.toList) :
    c ∉ (documentLocation database collection id).toList := by
  rw [toList_documentLocation, List.mem_append, not_or]
  refine ⟨notInBase, ?_⟩
  simp only [List.mem_append, List.mem_cons, not_or]
  exact ⟨notInDatabase, notSlash, notInCollection, notSlash, notInId⟩

/-- A request for a place has the place as its path, and no query, if nothing in the place ends
the path. -/
theorem path_eq_place {database collection id : String} {request : Http.Request}
    (target : request.target = documentLocation database collection id)
    (noQuery : '?' ∉ (documentLocation database collection id).toList)
    (noFragment : '#' ∉ (documentLocation database collection id).toList) :
    request.path = (documentLocation database collection id).toList ∧ request.query = [] := by
  obtain ⟨rest, begins⟩ : ∃ rest, request.target.toList = '/' :: rest := by
    rw [target, toList_documentLocation]
    exact ⟨_, rfl⟩
  rw [← target] at noQuery noFragment ⊢
  exact Http.Request.path_eq_target begins noQuery noFragment

/-- A request for a place of names that mean themselves has the place as its path, and no
query. -/
theorem path_of_place {database collection id : String} {request : Http.Request}
    (target : request.target = documentLocation database collection id)
    (placeable : Placeable database collection id) :
    request.path = (documentLocation database collection id).toList ∧ request.query = [] := by
  apply path_eq_place target
  · exact notMem_documentLocation (by decide) (by decide) placeable.databaseVerbatim.noQuery
      placeable.collectionVerbatim.noQuery placeable.idVerbatim.noQuery
  · exact notMem_documentLocation (by decide) (by decide) placeable.databaseVerbatim.noFragment
      placeable.collectionVerbatim.noFragment placeable.idVerbatim.noFragment

/-! ## What is asked for at a place -/

/-- Getting the place of a document asks for a search and not for the document. -/
def AsksForSearch (database id : String) : Prop :=
  id = "search" ∧ database ≠ "multi" ∧ database ≠ "bulk"

instance (database id : String) : Decidable (AsksForSearch database id) :=
  inferInstanceAs (Decidable (_ ∧ _))

/-- What getting the place of a document asks for. -/
def placeAction (database id : String) : Action :=
  if AsksForSearch database id then .search else .get id

namespace Route

/-- There are two words for loading documents. -/
theorem loadWord?_eq_none_iff (word : String) :
    loadWord? word = none ↔ word ≠ "multi" ∧ word ≠ "bulk" := by
  unfold loadWord?
  split <;> simp_all

/-- Of all three segments, getting asks for the object with the last one as its identifier,
or for a search. -/
theorem endpoint?_ofThree_get (database collection id : String) :
    (ofThree database collection id).endpoint? "GET" =
      some ⟨database, collection, placeAction database id⟩ := by
  have asks : AsksForSearch database id ↔ id = "search" ∧ loadWord? database = none := by
    rw [AsksForSearch, loadWord?_eq_none_iff]
  unfold ofThree placeAction
  simp only [asks]
  cases loadWord? database with
  | some action => simp [endpoint?, objectAction?]
  | none =>
    by_cases search : id = "search"
    · simp [search, endpoint?]
    · cases queryWord? id with
      | some action => simp [search, endpoint?, objectAction?]
      | none => simp [search, endpoint?, objectAction?]

/-- The route at the place of a document. -/
theorem ofPath?_documentLocation {database collection id : String}
    (databaseSegment : '/' ∉ database.toList) (collectionSegment : '/' ∉ collection.toList)
    (idSegment : '/' ∉ id.toList) (nonempty : id ≠ "") :
    ofPath? (documentLocation database collection id).toList =
      some (ofThree database collection id) := by
  rw [ofPath?, apiSegments?_documentLocation databaseSegment collectionSegment idSegment]
  simp [ofSegments?, nonempty]

end Route

/-- Names that mean themselves are decoded as they are. -/
theorem decode?_placeAction {database collection id : String}
    (placeable : Placeable database collection id) :
    (Endpoint.mk database collection (placeAction database id)).decode? =
      some ⟨database, collection, placeAction database id⟩ := by
  have databaseText := Http.segmentText?_eq_self placeable.databaseVerbatim.noEscape
  have collectionText := Http.segmentText?_eq_self placeable.collectionVerbatim.noEscape
  have idText := Http.segmentText?_eq_self placeable.idVerbatim.noEscape
  have action : (placeAction database id).decode? = some (placeAction database id) := by
    unfold placeAction
    split
    · rfl
    · simp [Action.decode?, idText]
  simp [Endpoint.decode?, databaseText, collectionText, action]

/-- Getting a place is a matter of reading. -/
theorem permission_placeAction (database id : String) :
    (placeAction database id).permission = .read := by
  unfold placeAction
  split <;> rfl

end DocumentGateway

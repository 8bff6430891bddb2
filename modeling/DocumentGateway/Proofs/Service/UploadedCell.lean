import DocumentGateway.Gateway.Task
import DocumentGateway.Proofs.Csv.Documents
import DocumentGateway.Proofs.Filter.Paging
import DocumentGateway.Proofs.Search.EqualityTerm
import DocumentGateway.Proofs.Service.Search
import DocumentGateway.Proofs.Store.InsertedMany

/-!
# Searching for uploaded cells

The cells of an upload are typed as wholes, the terms of a search as the service is set up to.
So the search for a cell under the name of its column finds the document of the row, unless
the service takes a text for a number or a boolean because it holds one somewhere. What the
search sees of the document is what is read of its stored text.
-/
namespace DocumentGateway.Service

open Decimal (ReadsBack)
open Search (Matching Recognizer Term)

/-- A search for one value finds the documents that hold it. -/
theorem search_equal {service : Service} {database collection text field : String}
    {raw : List Char} {documents : List Document}
    (spaceless : ' ' ∉ text.toList)
    (parsed : Term.parse? text.toList = some ⟨field.toList, .equal, raw⟩)
    (undotted : '.' ∉ field.toList) (unmarked : isOperatorKey field = false)
    (read : service.store.getAll database collection = .ok documents) :
    (service.search database collection (some text) {}).1 =
      .ok (documents.filter fun document =>
        Search.passes (service.compiler.matching.infer raw).isValue (Keyed.get? field document)) := by
  have compiled : Search.compileOptional service.compiler.matching (some text) =
      [(field, .literal (service.compiler.matching.infer raw))] := by
    rw [Search.compileOptional, Search.compile_equal _ spaceless parsed, String.ofList_toList]
  have proper := Search.compileOptional_proper service.compiler.matching (some text)
  rw [compiled] at proper
  obtain ⟨filter, filterRead, matched⟩ := storeFilter_plain proper (by simpa using unmarked)
  have same : filter.matches = fun document =>
      Search.passes (service.compiler.matching.infer raw).isValue (Keyed.get? field document) :=
    funext fun document => (matched document).trans (Search.isSatisfied_literal undotted _ document)
  change (service.searchFilter (some text)).bind _ = _
  rw [searchFilter, compiled, filterRead, ← same]
  change service.store.find database collection filter {} = _
  rw [find_eq_getAll, read]
  simp only [Except.map, Selection.select_all, Option.toList_none, sortDocuments_nil]

/-- A batch that a service inserts is inserted into its store. -/
theorem store_insertMany {service after : Service} {database collection : String}
    {bodies : List Json} {ids : List String}
    (inserted : service.insertMany database collection bodies = (.ok ids, after)) :
    service.store.insertMany database collection bodies = (.ok ids, after.store) := by
  obtain ⟨stored, rfl⟩ := Prod.mk.inj inserted
  exact Prod.ext stored rfl

/-- A document that was stored with a cell is found by the search for the cell exactly if the
number in the cell reads back and the service takes a text in it for a text. -/
theorem mem_search_equal_iff {service : Service} {name cell : String} {stored shown : Document}
    {documents : List Document}
    (held : Keyed.get? name stored = some (Matching.whole.infer cell.toList).toJson)
    (read : Json.rereadMembers? stored = some shown) (member : shown ∈ documents) :
    shown ∈ documents.filter (fun document =>
        Search.passes (service.compiler.matching.infer cell.toList).isValue
          (Keyed.get? name document)) ↔
      (∀ x ∈ (Matching.whole.infer cell.toList).toJson.reals, ReadsBack x) ∧
        (Matching.whole.infer cell.toList = .text cell.toList →
          service.compiler.matching.infer cell.toList = .text cell.toList) := by
  obtain ⟨value, valueRead⟩ :=
    Json.exists_rereadMembers?.mp ⟨shown, read⟩ _ (Keyed.mem_of_get? held)
  have present : Keyed.get? name shown = some value := by
    rw [Json.get?_rereadMembers? read, held]
    exact valueRead
  rw [List.mem_filter, and_iff_right member, present, Search.passes_reread _ valueRead]
  exact service.compiler.matching.isValue_infer_iff valueRead

/-- The document that is stored for a row of an upload. -/
abbrev uploaded (header row : List String) (id : String) : Document :=
  withId id (Csv.document Matching.whole.recognizer header row)

/-- The documents of an upload are stored, and as long as one of them is in the collection, the
search for one of its cells under the name of the column finds it exactly if the service takes
the cell for a text if the upload took it for one. An upload types cells as wholes, so it may
take for a text what a service takes for something else, but not the other way around. -/
theorem uploaded_cell_found_iff {service after : Service} {database collection : String}
    {bytes : Bytes} {documents : List Document} {header : List String}
    {rows : List (List String)} {ids : List String}
    (made : Csv.documents Matching.whole.recognizer bytes = .ok documents)
    (table : Csv.table bytes = .ok (header, rows))
    (inserted : service.insertMany database collection (documents.map .object) = (.ok ids, after))
    {name cell : String} (unique : header.count name = 1) (undotted : '.' ∉ name.toList)
    (unmarked : isOperatorKey name = false) (spaceless : ' ' ∉ (name ++ ":" ++ cell).toList)
    (parsed : Term.parse? (name ++ ":" ++ cell).toList = some ⟨name.toList, .equal, cell.toList⟩)
    (kept : ∀ x ∈ (Matching.whole.infer cell.toList).toJson.reals, ReadsBack x) :
    (∀ before, service.store.getAll database collection = .ok before →
      (∀ document ∈ documents, ∃ read, Json.rereadMembers? document = some read) →
        ∃ all, after.store.getAll database collection = .ok all ∧
          List.Forall₂ (fun row id => ∃ shown ∈ all,
            Json.rereadMembers? (uploaded header row id) = some shown) rows ids) ∧
      ∀ (later : Service) (all : List Document),
        later.store.getAll database collection = .ok all →
          ∃ found,
            (later.search database collection (some (name ++ ":" ++ cell)) {}).1 = .ok found ∧
              List.Forall₂ (fun row id => (name, cell) ∈ header.zip row → ∀ shown ∈ all,
                Json.rereadMembers? (uploaded header row id) = some shown →
                (shown ∈ found ↔
                  (Matching.whole.infer cell.toList = .text cell.toList →
                    later.compiler.matching.infer cell.toList = .text cell.toList))) rows ids := by
  obtain rfl : rows.map (Csv.document Matching.whole.recognizer header) = documents := by
    rw [Csv.documents_eq, table] at made
    exact Except.ok.inj made
  have stored := store_insertMany inserted
  constructor
  · intro before readable legible
    have regular :
        ∀ body ∈ (rows.map (Csv.document Matching.whole.recognizer header)).map Json.object,
          body.Regular Json.maxDepth := by
      intro body member
      obtain ⟨_, inDocuments, rfl⟩ := List.mem_map.mp member
      obtain ⟨row, -, rfl⟩ := List.mem_map.mp inDocuments
      exact Csv.document_regular _ header row _
    obtain ⟨all, shown, each⟩ := DocumentStore.getAll_of_insertMany stored readable regular
      (by simpa using legible)
    rw [List.map_map, List.forall₂_map_left_iff] at each
    refine ⟨all, shown, each.imp fun row id ⟨members, document, read⟩ => ?_⟩
    obtain rfl : Csv.document _ header row = members := Json.object.inj document
    exact read
  · intro later all readLater
    refine ⟨_, search_equal spaceless parsed undotted unmarked readLater, ?_⟩
    have each := DocumentStore.brought_of_insertMany stored
    rw [List.map_map, List.forall₂_map_left_iff] at each
    refine each.imp fun row id ⟨members, document, brought⟩ inRow shown member read =>
      (mem_search_equal_iff ?_ read member).trans (and_iff_right kept)
    obtain rfl : Csv.document _ header row = members := Json.object.inj document
    exact DocumentStore.get?_withId brought (Csv.get?_document _ (le_of_eq unique) inRow)
      (Search.Scalar.toJson_ne_null (Matching.whole.recognizer.infer_proper cell.toList))

/-! ## An upload of one row -/

/-- A header with a row that has a text with a boolean in it. -/
def flaggedUpload : Bytes :=
  Utf8.encode "_id,flag\nx,truest\n"

/-- The document of the row. -/
def flaggedDocument : Document :=
  [("_id", .string "x"), ("flag", .string "truest")]

/-- A service over an empty store in memory. -/
def inMemory (matching : Matching) : Service where
  store := ⟨.memory .empty, { codec := .none }, .empty, ⟨0, fun _ => "spare"⟩⟩
  compiler := { matching := matching }
  health := {}
  probes := 0
  records := []

/-- The document of the row is inserted. -/
def uploadFlagged (matching : Matching) : Outcome (List String) :=
  (inMemory matching).insertMany "db" "c" ([flaggedDocument].map .object)

/-- The upload succeeds with the identifier that the row brings. -/
theorem uploadFlagged_eq (matching : Matching) :
    uploadFlagged matching = (.ok ["x"], (uploadFlagged matching).2) :=
  Prod.ext rfl rfl

/-- The upload is a table of one row. -/
theorem table_flaggedUpload :
    Csv.table flaggedUpload = .ok (["_id", "flag"], [["x", "truest"]]) := by
  cbv

/-- The cell is no boolean word, so as a whole it is a text. -/
theorem infer_truest_whole : Matching.whole.infer "truest".toList = .text "truest".toList :=
  Recognizer.infer_eq_text (Recognizer.number?_eq_none (by rfl)) (by rfl)

/-- A boolean word stands at the front of the cell, so anywhere it is a boolean. -/
theorem infer_truest_anywhere : Matching.anywhere.infer "truest".toList = .boolean true :=
  Recognizer.infer_eq_boolean (by rfl) (by rfl)

/-- Both cells of the row stay texts in its document. -/
theorem document_flagged :
    Csv.document Matching.whole.recognizer ["_id", "flag"] ["x", "truest"] = flaggedDocument := by
  have id : Matching.whole.infer "x".toList = .text "x".toList :=
    Recognizer.infer_eq_text (Recognizer.number?_eq_none (by rfl)) (by rfl)
  have cells : Csv.document Matching.whole.recognizer ["_id", "flag"] ["x", "truest"] =
      Keyed.ofList [("_id", (Matching.whole.infer "x".toList).toJson),
        ("flag", (Matching.whole.infer "truest".toList).toJson)] := rfl
  rw [cells, id, infer_truest_whole]
  rfl

/-- The one row makes up one document. -/
theorem documents_flaggedUpload :
    Csv.documents Matching.whole.recognizer flaggedUpload = .ok [flaggedDocument] := by
  rw [Csv.documents_eq, table_flaggedUpload, ← document_flagged]
  rfl

/-- The theorem at this upload: a service that types terms as wholes finds the document. -/
theorem flagged_found :
    let upload := uploadFlagged .whole
    Csv.documents Matching.whole.recognizer flaggedUpload = .ok [flaggedDocument] ∧
      upload.1 = .ok ["x"] ∧
      ∃ found, (upload.2.search "db" "c" (some "flag:truest") {}).1 = .ok found ∧
        flaggedDocument ∈ found := by
  intro upload
  have kept : ∀ x ∈ (Matching.whole.infer "truest".toList).toJson.reals, ReadsBack x := by
    rw [infer_truest_whole]
    exact List.forall_mem_nil _
  obtain ⟨listed, finds⟩ := uploaded_cell_found_iff documents_flaggedUpload table_flaggedUpload
    (uploadFlagged_eq .whole) (show _ = 1 by decide) (show '.' ∉ "flag".toList by decide)
    (by decide) (show ' ' ∉ ("flag" ++ ":" ++ "truest").toList by decide) (by decide) kept
  obtain ⟨all, read, each⟩ := listed [] rfl fun document member => by
    obtain rfl := List.mem_singleton.mp member
    exact ⟨flaggedDocument, rfl⟩
  obtain ⟨found, searched, foundEach⟩ := finds upload.2 all read
  obtain ⟨⟨shown, member, shownRead⟩, -⟩ := List.forall₂_cons.mp each
  have found_iff := (List.forall₂_cons.mp foundEach).1 (by decide) shown member shownRead
  obtain rfl : flaggedDocument = shown := by
    rw [uploaded, document_flagged] at shownRead
    exact Option.some.inj shownRead
  exact ⟨documents_flaggedUpload, rfl, found, searched, found_iff.mpr fun _ => infer_truest_whole⟩

/-- A service that looks for types anywhere takes the text for a boolean, and does not find the
document although it is in the collection. -/
theorem flagged_missed :
    let upload := uploadFlagged .anywhere
    Csv.documents Matching.whole.recognizer flaggedUpload = .ok [flaggedDocument] ∧
      upload.1 = .ok ["x"] ∧
      Term.parse? "flag:truest".toList = some ⟨"flag".toList, .equal, "truest".toList⟩ ∧
      ∃ all found, upload.2.store.getAll "db" "c" = .ok all ∧ flaggedDocument ∈ all ∧
        (upload.2.search "db" "c" (some "flag:truest") {}).1 = .ok found ∧
          flaggedDocument ∉ found := by
  intro upload
  have parsed : Term.parse? "flag:truest".toList =
      some ⟨"flag".toList, .equal, "truest".toList⟩ := by
    decide
  have regular : (Json.object flaggedDocument).Regular Json.maxDepth :=
    document_flagged ▸ Csv.document_regular _ _ _ _
  have legible : Json.rereadMembers? flaggedDocument = some flaggedDocument := rfl
  have held : Keyed.get? "flag" flaggedDocument =
      some (Matching.whole.infer "truest".toList).toJson := by
    rw [infer_truest_whole]
    rfl
  obtain ⟨all, read, each⟩ := DocumentStore.getAll_of_insertMany
    (store_insertMany (uploadFlagged_eq .anywhere))
    (show (inMemory .anywhere).store.getAll "db" "c" = .ok [] from rfl)
    (by simpa using regular) (by simpa using ⟨flaggedDocument, legible⟩)
  obtain ⟨⟨members, document, shown, member, shownRead⟩, -⟩ := List.forall₂_cons.mp each
  obtain rfl : flaggedDocument = members := Json.object.inj document
  obtain rfl : flaggedDocument = shown := Option.some.inj shownRead
  refine ⟨documents_flaggedUpload, rfl, parsed, all, _, read, member,
    search_equal (by decide) parsed (by decide) (by decide) read, fun inFound => ?_⟩
  have taken := ((mem_search_equal_iff held legible member).mp inFound).2
  exact nomatch infer_truest_anywhere.symm.trans (taken infer_truest_whole)

end DocumentGateway.Service

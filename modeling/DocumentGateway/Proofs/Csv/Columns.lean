import DocumentGateway.Proofs.Csv.Documents
import DocumentGateway.Proofs.Search.TypePattern
import DocumentGateway.Proofs.Text.Blank

/-!
# Columns of tables

Each row of a table is one document, in the order of the rows, and its fields are the names of the
columns. Under a name stands the cell of the last column with this name, typed. So no cell is lost
as long as the names are different, and where a name is repeated, only the last of its columns
keeps its cells.
-/
namespace DocumentGateway.Csv

open Search (Matching Recognizer)

/-! ## Tables -/

/-- A text without blanks at both ends. -/
def Trim (text : String) : Prop :=
  Text.trimmed text = text

/-- What has been trimmed once is not changed by trimming it again. -/
theorem trim_trimmed (text : String) : Trim (Text.trimmed text) := by
  rw [Trim, Text.trimmed, Text.trimmed, String.toList_ofList, Text.trim_trim]

/-- Decoding the fields of a record loses none of them: it fails or reads all. -/
theorem length_of_decoded {fields : List Bytes} {decoded : List String}
    (done : fields.mapM Utf8.decode? = some decoded) : decoded.length = fields.length := by
  induction fields generalizing decoded with
  | nil =>
    obtain rfl : [] = decoded := by simpa using done
    rfl
  | cons field rest inductionHypothesis =>
    simp only [List.mapM_cons, Option.bind_eq_bind, Option.bind_eq_some_iff] at done
    obtain ⟨first, -, others, restDone, made⟩ := done
    obtain rfl := Option.some.inj made
    rw [List.length_cons, List.length_cons, inductionHypothesis restDone]

/-- A record has as many texts as fields, and they are trimmed. -/
theorem texts_spec {record : Record} {texts : List String} (read : record.texts = .ok texts) :
    texts.length = record.fields.length ∧ ∀ text ∈ texts, Trim text := by
  unfold Record.texts at read
  split at read
  · rename_i decoded done
    obtain rfl := Except.ok.inj read
    constructor
    · rw [List.length_map, length_of_decoded done]
    · intro text member
      obtain ⟨given, -, rfl⟩ := List.mem_map.mp member
      exact trim_trimmed given
  · cases read

/-- A row has as many cells as the header is wide, and they are trimmed. -/
theorem readRow_spec {width : Nat} {record : Record} {row : List String}
    (read : readRow width record = .ok row) : row.length = width ∧ ∀ cell ∈ row, Trim cell := by
  unfold readRow at read
  split at read
  · rename_i wide
    obtain ⟨sameLength, trim⟩ := texts_spec read
    exact ⟨sameLength.trans wide, trim⟩
  · cases read

/-- The names of a table are trimmed, and its rows are as long as the header, with trimmed
cells. -/
theorem table_spec {bytes : Bytes} {header : List String} {rows : List (List String)}
    (read : table bytes = .ok (header, rows)) :
    (∀ name ∈ header, Trim name) ∧
      ∀ row ∈ rows, row.length = header.length ∧ ∀ cell ∈ row, Trim cell := by
  unfold table at read
  split at read
  · obtain ⟨rfl, rfl⟩ := Prod.mk.inj (Except.ok.inj read)
    exact ⟨List.forall_mem_nil _, List.forall_mem_nil _⟩
  · rename_i first rest _
    obtain ⟨names, namesRead, later⟩ := bind_eq_ok_iff.mp read
    obtain ⟨found, rowsRead, made⟩ := bind_eq_ok_iff.mp later
    obtain ⟨rfl, rfl⟩ := Prod.mk.inj (Except.ok.inj made)
    obtain ⟨width, trim⟩ := texts_spec namesRead
    refine ⟨trim, ?_⟩
    intro row member
    obtain ⟨record, -, rowRead⟩ := (mem_of_mapM rowsRead row).mp member
    rw [width]
    exact readRow_spec rowRead

/-! ## Documents -/

/-- A column is the last one with its name. -/
def IsLast (header : List String) (column : Nat) : Prop :=
  ∀ later, column < later → header[later]? ≠ header[column]?

/-- A document that a row makes up: its fields are the names of the header, each of them once, and
under a name stands the typed cell of the last column with this name. -/
structure HoldsRow (recognizer : Recognizer) (header row : List String)
    (document : Document) : Prop where
  distinct : (Keyed.keys document).Nodup
  named : ∀ name, name ∈ Keyed.keys document ↔ name ∈ header
  cells : ∀ column name cell, header[column]? = some name → row[column]? = some cell →
    IsLast header column →
      Keyed.get? name document = some (recognizer.infer cell.toList).toJson

/-- The document of a row holds the row. -/
theorem document_holdsRow (recognizer : Recognizer) {header row : List String}
    (sameLength : row.length = header.length) :
    HoldsRow recognizer header row (document recognizer header row) := by
  obtain ⟨distinct, given⟩ := Keyed.ofList_spec (typedCells recognizer header row)
  refine ⟨distinct, ?_, ?_⟩
  · intro name
    constructor
    · intro held
      obtain ⟨field, member, rfl⟩ := List.mem_map.mp held
      exact mem_header_of_typedCells recognizer (List.mem_map_of_mem (given field member))
    · intro inHeader
      apply Keyed.mem_keys_ofList
      have names : Keyed.keys (typedCells recognizer header row) = header := by
        rw [Keyed.keys, typedCells, List.map_map]
        exact List.map_fst_zip (le_of_eq sameLength.symm)
      exact names.symm ▸ inHeader
  · intro column name cell named held last
    apply get?_document_last recognizer named held
    intro again
    obtain ⟨place, found⟩ := List.mem_iff_getElem?.mp again
    rw [List.getElem?_drop] at found
    exact last (column + 1 + place) (by omega) (found.trans named.symm)

/-- Of each text that can be read, each row is one document, in the order of the rows, which are as
long as the header: the fields are the names in the header, and under the name of a column that is
the last one with this name stands the trimmed cell of the row in this column, typed. -/
theorem row_documents {recognizer : Recognizer} {bytes : Bytes} {found : List Document}
    (accepted : documents recognizer bytes = .ok found) :
    ∃ header rows, table bytes = .ok (header, rows) ∧ (∀ name ∈ header, Trim name) ∧
      List.Forall₂ (fun row document => row.length = header.length ∧ (∀ cell ∈ row, Trim cell) ∧
        HoldsRow recognizer header row document) rows found := by
  rw [documents_eq] at accepted
  obtain ⟨⟨header, rows⟩, read, rfl⟩ := map_eq_ok_iff.mp accepted
  obtain ⟨trim, each⟩ := table_spec read
  refine ⟨header, rows, read, trim, ?_⟩
  rw [List.forall₂_map_right_iff, List.forall₂_same]
  intro row member
  obtain ⟨sameLength, trimCells⟩ := each row member
  exact ⟨sameLength, trimCells, document_holdsRow recognizer sameLength⟩

/-! ## Repeated names -/

/-- A table with two columns of one name. -/
def repeatedColumn : Bytes :=
  Utf8.encode " a,b,a\nx,y, z\n"

/-- The table is read as three names, one of them repeated, and one row. -/
theorem table_repeatedColumn :
    table repeatedColumn = .ok (["a", "b", "a"], [["x", "y", "z"]]) := by
  cbv

/-- The one row makes up one document. -/
theorem documents_repeatedColumn : documents Matching.whole.recognizer repeatedColumn =
    .ok [document Matching.whole.recognizer ["a", "b", "a"] ["x", "y", "z"]] := by
  rw [documents_eq, table_repeatedColumn]
  rfl

/-- The theorem at this table: of the columns named `a`, the third one is the last. -/
theorem row_documents_repeated :
    ∃ found, documents Matching.whole.recognizer repeatedColumn = .ok [found] ∧
      IsLast ["a", "b", "a"] 2 ∧
      (∀ name, name ∈ Keyed.keys found ↔ name ∈ ["a", "b", "a"]) ∧
        Keyed.get? "a" found = some (Matching.whole.infer "z".toList).toJson := by
  obtain ⟨header, rows, read, -, each⟩ := row_documents documents_repeatedColumn
  obtain ⟨rfl, rfl⟩ := Prod.mk.inj (Except.ok.inj (read.symm.trans table_repeatedColumn))
  obtain ⟨⟨-, -, holds⟩, -⟩ := List.forall₂_cons.mp each
  have last : IsLast ["a", "b", "a"] 2 := by
    intro later after
    rw [List.getElem?_eq_none after]
    exact nofun
  exact ⟨_, documents_repeatedColumn, last, holds.named, holds.cells 2 "a" "z" rfl rfl last⟩

/-- The first column named `a` is lost: what stands under its name is not its cell. -/
theorem first_repeated_lost :
    table repeatedColumn = .ok (["a", "b", "a"], [["x", "y", "z"]]) ∧
      ∃ found, documents Matching.whole.recognizer repeatedColumn = .ok [found] ∧
        Keyed.get? "a" found ≠ some (Matching.whole.infer "x".toList).toJson := by
  refine ⟨table_repeatedColumn, _, documents_repeatedColumn, ?_⟩
  have held : Keyed.get? "a" (document Matching.whole.recognizer ["a", "b", "a"] ["x", "y", "z"]) =
      some (Matching.whole.infer "z".toList).toJson := by
    rfl
  have lost : Matching.whole.infer "x".toList = .text "x".toList :=
    Recognizer.infer_eq_text (Recognizer.number?_eq_none (by rfl)) (by rfl)
  have kept : Matching.whole.infer "z".toList = .text "z".toList :=
    Recognizer.infer_eq_text (Recognizer.number?_eq_none (by rfl)) (by rfl)
  rw [held, lost, kept]
  intro same
  have sameText : String.ofList "z".toList = String.ofList "x".toList :=
    Json.string.inj (Option.some.inj same)
  exact absurd sameText (by decide)

end DocumentGateway.Csv

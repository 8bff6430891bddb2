import DocumentGateway.Csv.Documents
import DocumentGateway.Proofs.Except
import DocumentGateway.Proofs.Search.ExpressionText

/-!
# Documents from tables

A text of comma-separated values is a table with a header, and each of its rows becomes a
document. A cell is found in the document under the name of its column, as far as no later
column has the same name.
-/
namespace DocumentGateway.Csv

/-- The header of a text and the rows below it. -/
def table (bytes : Bytes) : Except Error (List String × List (List String)) :=
  match records bytes with
  | [] => .ok ([], [])
  | header :: rest => do
    let names ← header.texts
    let rows ← readRows header.fields.length rest
    .ok (names, rows)

/-- The documents of a text are those of the rows of its table. -/
theorem documents_eq (recognizer : Search.Recognizer) (bytes : Bytes) :
    documents recognizer bytes =
      (table bytes).map fun (header, rows) => rows.map (document recognizer header) := by
  unfold documents table
  cases records bytes with
  | nil => rfl
  | cons header rest =>
    dsimp only
    cases header.texts with
    | error error => rfl
    | ok names => cases readRows header.fields.length rest <;> rfl

section Row

variable (recognizer : Search.Recognizer) {header row : List String}

/-- The cells of a row under their names, typed. -/
def typedCells (header row : List String) : List (String × Json) :=
  (header.zip row).map fun (name, cell) => (name, (recognizer.infer cell.toList).toJson)

/-- A document is put together from the typed cells of its row, from left to right. -/
theorem document_eq (header row : List String) :
    document recognizer header row = Keyed.ofList (typedCells recognizer header row) := rfl

/-- Every typed cell stands under a name of the header. -/
theorem mem_header_of_typedCells {name : String}
    (held : name ∈ Keyed.keys (typedCells recognizer header row)) : name ∈ header := by
  obtain ⟨field, member, rfl⟩ := List.mem_map.mp held
  obtain ⟨pair, inZip, rfl⟩ := List.mem_map.mp member
  exact (List.of_mem_zip inZip).1

/-- The cell of a column stands between those of the columns before and after it. -/
theorem typedCells_split {column : Nat} {name cell : String}
    (named : header[column]? = some name) (held : row[column]? = some cell) :
    typedCells recognizer header row =
      typedCells recognizer (header.take column) (row.take column) ++
        (name, (recognizer.infer cell.toList).toJson) ::
          typedCells recognizer (header.drop (column + 1)) (row.drop (column + 1)) := by
  obtain ⟨inHeader, rfl⟩ := List.getElem?_eq_some_iff.mp named
  obtain ⟨inRow, rfl⟩ := List.getElem?_eq_some_iff.mp held
  have columns : header.zip row = (header.take column).zip (row.take column) ++
      (header[column], row[column]) :: (header.drop (column + 1)).zip (row.drop (column + 1)) := by
    rw [← List.zip_cons_cons, List.getElem_cons_drop, List.getElem_cons_drop, ← List.zip_append,
      List.take_append_drop, List.take_append_drop]
    rw [List.length_take_of_le inHeader.le, List.length_take_of_le inRow.le]
  rw [typedCells, columns, List.map_append, List.map_cons]
  rfl

/-- A cell is found under the name of its column, if no later column has this name. -/
theorem get?_document_last {column : Nat} {name cell : String}
    (named : header[column]? = some name) (held : row[column]? = some cell)
    (last : name ∉ header.drop (column + 1)) :
    Keyed.get? name (document recognizer header row) =
      some (recognizer.infer cell.toList).toJson := by
  rw [document_eq, typedCells_split recognizer named held]
  apply Keyed.get?_ofList_last
  intro again
  exact last (mem_header_of_typedCells recognizer again)

/-- A cell is found under the name of its column, if this is the only one with this name. -/
theorem get?_document {name cell : String} (unique : header.count name ≤ 1)
    (member : (name, cell) ∈ header.zip row) :
    Keyed.get? name (document recognizer header row) =
      some (recognizer.infer cell.toList).toJson := by
  obtain ⟨column, found⟩ := List.mem_iff_getElem?.mp member
  have named : header[column]? = some name := (List.getElem?_zip_eq_some.mp found).1
  have held : row[column]? = some cell := (List.getElem?_zip_eq_some.mp found).2
  apply get?_document_last recognizer named held
  obtain ⟨inHeader, here⟩ := List.getElem?_eq_some_iff.mp named
  rw [← List.take_append_drop column header, ← List.getElem_cons_drop inHeader, here,
    List.count_append, List.count_cons_self] at unique
  exact List.count_eq_zero.mp (by omega)

end Row

/-- The document of a row holds each key once, and no value in it holds another one. -/
theorem document_regular (recognizer : Search.Recognizer) (header row : List String)
    (levels : Nat) :
    (Json.object (document recognizer header row)).Regular (levels + 1) := by
  unfold document
  refine .object (Keyed.ofList_spec _).1 fun member held => ?_
  obtain ⟨⟨name, cell⟩, -, rfl⟩ := List.mem_map.mp ((Keyed.ofList_spec _).2 member held)
  exact (recognizer.infer cell.toList).toJson_regular levels

end DocumentGateway.Csv

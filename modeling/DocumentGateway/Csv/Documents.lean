import DocumentGateway.Csv.Record
import DocumentGateway.Search.Literal
import DocumentGateway.Text.Blank

/-!
# Documents from comma-separated values

The first record is the header and names the members of all documents; every further
record is a document. All records have as many fields as the header. The blanks around
names and values do not count, and values are typed like those of search terms, by
whatever recognizer is at hand.
-/
namespace DocumentGateway.Csv

/-- Why a text cannot be read. -/
inductive Error where
  | notText
  | unequalLengths (position : Position) (found expected : Nat)
  deriving DecidableEq, Repr

/-- The wording of an error. -/
def Error.message : Error → String
  | notText => "CSV parse error"
  | unequalLengths position found expected =>
    "CSV parse error: CSV error: record " ++ toString position.record ++ " (line: " ++
      toString position.line ++ ", byte: " ++ toString position.byte ++
      "): found record with " ++ toString found ++ " fields, but the previous record has " ++
      toString expected ++ " fields"

/-- The texts of a record's fields, without the blanks around them. -/
def Record.texts (record : Record) : Except Error (List String) :=
  match record.fields.mapM Utf8.decode? with
  | some texts => .ok (texts.map Text.trimmed)
  | none => .error .notText

/-- The document of a row under a header. -/
def document (recognizer : Search.Recognizer) (header row : List String) : Document :=
  Keyed.ofList ((header.zip row).map fun (name, cell) =>
    (name, (recognizer.infer cell.toList).toJson))

/-- The texts of a row, which has to be as long as the header. -/
def readRow (width : Nat) (record : Record) : Except Error (List String) :=
  if record.fields.length = width then record.texts
  else .error (.unequalLengths record.position record.fields.length width)

/-- The rows below a header. -/
def readRows (width : Nat) (records : List Record) : Except Error (List (List String)) :=
  records.mapM (readRow width)

/-- The documents of a text. -/
def documents (recognizer : Search.Recognizer) (bytes : Bytes) : Except Error (List Document) :=
  match records bytes with
  | [] => .ok []
  | header :: rest => do
    let names ← header.texts
    let rows ← readRows header.fields.length rest
    .ok (rows.map (document recognizer names))

end DocumentGateway.Csv

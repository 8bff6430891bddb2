import DocumentGateway.Text.Utf8

/-!
# Records of comma-separated values

A text of comma-separated values is a row of records, and a record is a row of fields
with commas between them. A record ends with a carriage return, with a line feed, or
with the text. Line ends in front of a record are passed over, so blank lines are no
records. A field that starts with a quote goes on to the next single quote, whatever
stands between; a quote inside is written twice. What follows the closing quote still
belongs to the field. A quote inside a field that does not start with one stands for
itself.

The line feed after a carriage return belongs to the record that follows, and so do the
line ends in front of a record: a record starts where the one before it ended.
-/
namespace DocumentGateway.Csv

/-- The comma. -/
def comma : UInt8 := 0x2C

/-- The quote. -/
def quote : UInt8 := 0x22

/-- The line feed. -/
def lineFeed : UInt8 := 0x0A

/-- Whether a byte ends a record. -/
def isLineEnd (byte : UInt8) : Bool :=
  byte = lineFeed || byte = 0x0D

/-- Where in a field a byte stands: at its start, in a part without quotes, between
quotes, or behind a quote that may be the closing one. -/
inductive FieldPart where
  | start
  | bare
  | quoted
  | behindQuote
  deriving DecidableEq, Repr

/-- What a byte does: it belongs to the field, it is passed over, or it ends the field
or the record. -/
inductive Step where
  | keep (next : FieldPart)
  | skip (next : FieldPart)
  | endField
  | endRecord
  deriving DecidableEq, Repr

/-- What a byte outside quotes does. -/
def bareStep (byte : UInt8) : Step :=
  if byte = comma then .endField
  else if isLineEnd byte then .endRecord
  else .keep .bare

/-- What a byte does in a part of a field. -/
def FieldPart.step (part : FieldPart) (byte : UInt8) : Step :=
  match part with
  | .start => if byte = quote then .skip .quoted else bareStep byte
  | .bare => bareStep byte
  | .quoted => if byte = quote then .skip .behindQuote else .keep .quoted
  | .behindQuote => if byte = quote then .keep .quoted else bareStep byte

/-- The fields from a byte on, of which the first one has been read in part, and the
bytes after the record. -/
def readFields (part : FieldPart) (reversed : Bytes) : Bytes → List Bytes × Bytes
  | [] => ([reversed.reverse], [])
  | byte :: rest =>
    match part.step byte with
    | .keep next => readFields next (byte :: reversed) rest
    | .skip next => readFields next reversed rest
    | .endRecord => ([reversed.reverse], rest)
    | .endField =>
      let (fields, rest) := readFields .start [] rest
      (reversed.reverse :: fields, rest)

/-- A place in a text: the number of records before it, the number of its line, which
counts from one, and the number of bytes before it. -/
structure Position where
  record : Nat
  line : Nat
  byte : Nat
  deriving DecidableEq, Repr

/-- The place after a record and the bytes it took. -/
def Position.after (position : Position) (taken : Bytes) : Position :=
  ⟨position.record + 1, position.line + taken.count lineFeed, position.byte + taken.length⟩

/-- A record with the place where it starts. -/
structure Record where
  position : Position
  fields : List Bytes
  deriving DecidableEq, Repr

/-- The records from a place on, at most as many as the number says. -/
def readRecords : Nat → Position → Bytes → List Record
  | 0, _, _ => []
  | count + 1, position, bytes =>
    match bytes.dropWhile isLineEnd with
    | [] => []
    | first :: more =>
      let (fields, rest) := readFields .start [] (first :: more)
      let taken := bytes.take (bytes.length - rest.length)
      ⟨position, fields⟩ :: readRecords count (position.after taken) rest

/-- The bytes of a byte order mark. -/
def byteOrderMark : Bytes :=
  [0xEF, 0xBB, 0xBF]

/-- All records of a text. A byte order mark in front counts as bytes only. -/
def records (bytes : Bytes) : List Record :=
  match byteOrderMark.isPrefixOf? bytes with
  | some rest => readRecords rest.length ⟨0, 1, byteOrderMark.length⟩ rest
  | none => readRecords bytes.length ⟨0, 1, 0⟩ bytes

end DocumentGateway.Csv

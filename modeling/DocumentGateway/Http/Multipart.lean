import DocumentGateway.Http.MediaType
import DocumentGateway.Http.Message
import DocumentGateway.Text.Cut

/-!
# Multipart bodies

A multipart body is a row of parts. A boundary stands before each part and behind the
last one, at the start of a line and after two dashes; two more dashes follow the last
boundary. A part has headers, an empty line and a content, and the name of a part stands
in its header `Content-Disposition`. What comes before the first boundary is passed
over, and the body is read only as far as the part that is wanted.
-/
namespace DocumentGateway.Http.Multipart

/-- The bytes of a line end. -/
def lineEnd : Bytes := [0x0D, 0x0A]

/-- The bytes of two dashes. -/
def dashes : Bytes := [0x2D, 0x2D]

/-- Whether a byte is a space or a tab. -/
def isPadding (byte : UInt8) : Bool :=
  byte = 0x20 || byte = 0x09

/-- The boundary of a body, if the content type names one. -/
def boundary? (request : Request) : Option String := do
  let text ← (request.header? "content-type").bind Request.plainText?
  let mediaType ← MediaType.ofText? text
  if mediaType.type = "multipart" ∧ mediaType.subtype = "form-data" then
    mediaType.parameter? "boundary"
  else none

/-! ## Headers of parts -/

/-- Whether a byte may stand in the name of a header. -/
def isNameByte (byte : UInt8) : Bool :=
  byte < 0x80 && isTokenCharacter (Char.ofNat byte.toNat)

/-- Whether a byte may stand in the value of a header. -/
def isValueByte (byte : UInt8) : Bool :=
  byte = 0x09 || (0x20 ≤ byte && byte ≠ 0x7F)

/-- The bytes behind a line end, which may lack its carriage return. -/
def skipLineEnd : Bytes → Option Bytes
  | 0x0A :: rest => some rest
  | 0x0D :: 0x0A :: rest => some rest
  | _ => none

/-- The bytes without the padding at their end. -/
def withoutPadding (value : Bytes) : Bytes :=
  (value.reverse.dropWhile isPadding).reverse

/-- A header and the bytes behind its line. -/
def readHeader (bytes : Bytes) : Option ((Bytes × Bytes) × Bytes) :=
  match bytes.takeWhile isNameByte, bytes.dropWhile isNameByte with
  | [], _ => none
  | name, 0x3A :: rest =>
    let rest := rest.dropWhile isPadding
    (skipLineEnd (rest.dropWhile isValueByte)).map fun after =>
      ((name, withoutPadding (rest.takeWhile isValueByte)), after)
  | _, _ => none

/-- The headers up to an empty line. There are at most as many as the number says. -/
def readHeaders : Nat → Bytes → Option (List (Bytes × Bytes))
  | count, bytes =>
    match skipLineEnd bytes with
    | some _ => some []
    | none =>
      match count with
      | 0 => none
      | count + 1 => do
        let (header, rest) ← readHeader bytes
        let others ← readHeaders count rest
        some (header :: others)

/-- The greatest number of headers in a part. -/
def maxHeaders : Nat := 32

/-- Whether a byte is white space in a header. -/
def isSpace (byte : UInt8) : Bool :=
  [0x20, 0x09, 0x0A, 0x0C, 0x0D].contains byte

/-- A quoted value up to its closing quote. A quote behind a backslash stands for itself
and does not close. -/
def quotedValue? : Bytes → Option Bytes
  | [] => none
  | 0x22 :: _ => some []
  | 0x5C :: 0x22 :: rest => (quotedValue? rest).map (0x22 :: ·)
  | byte :: rest => (quotedValue? rest).map (byte :: ·)

/-- The value behind the name of an attribute: between quotes, or up to a semicolon or a
space. -/
def attributeValue? (bytes : Bytes) : Option Bytes :=
  match bytes.dropWhile isSpace with
  | 0x3D :: rest =>
    match rest.dropWhile isSpace with
    | 0x22 :: rest => quotedValue? rest
    | rest => some (rest.takeWhile fun byte => byte ≠ 0x3B && byte ≠ 0x20)
  | _ => none

/-- The value of the attribute with a name. The name has to stand at the start or behind
white space or a semicolon; where it stands elsewhere, the search begins anew behind it.
The number bounds how often. -/
def attribute? (name : Bytes) : Nat → Bytes → Option Bytes
  | 0, _ => none
  | count + 1, bytes =>
    match Text.cutAt? name bytes with
    | none => none
    | some (before, after) =>
      match before.getLast? with
      | none => attributeValue? after
      | some last =>
        if isSpace last || last = 0x3B then attributeValue? after
        else attribute? name count after

/-- The name of a part among its headers, of which the last one with the name counts. -/
def nameOf? (headers : List (Bytes × Bytes)) : Option String := do
  let header ← headers.reverse.find? fun header =>
    Request.lowerName (Utf8.decode header.1) = "content-disposition"
  let name ← attribute? (Utf8.encode "name") header.2.length header.2
  Utf8.decode? name

/-! ## Parts -/

/-- A part with its name. -/
structure Part where
  name : Option String
  content : Bytes

/-- A part whose boundary has been read, and the bytes behind the boundary after it. -/
def readPart (delimiter bytes : Bytes) : Option (Part × Bytes) := do
  let rest ← lineEnd.isPrefixOf? (bytes.dropWhile isPadding)
  let (head, rest) ← Text.cutAt? (lineEnd ++ lineEnd) rest
  let headers ← readHeaders maxHeaders (head ++ lineEnd ++ lineEnd)
  let (content, rest) ← Text.cutAt? (lineEnd ++ delimiter) rest
  some (⟨nameOf? headers, content⟩, rest)

/-- The content of the first part with a name, behind a boundary, or none if the parts
end before. An outer `none` says that the body is malformed. The number bounds how many
parts there are. -/
def contentFrom (delimiter : Bytes) (name : String) : Nat → Bytes → Option (Option Bytes)
  | 0, _ => none
  | count + 1, bytes =>
    if dashes.isPrefixOf bytes then some none
    else match readPart delimiter bytes with
      | none => none
      | some (part, rest) =>
        if part.name = some name then some (some part.content)
        else contentFrom delimiter name count rest

/-- The content of the first part with a name in a body with a boundary. -/
def content? (boundary name : String) (body : Bytes) : Option (Option Bytes) :=
  let delimiter := dashes ++ Utf8.encode boundary
  match Text.cutAt? delimiter body with
  | some (_, rest) => contentFrom delimiter name body.length rest
  | none => none

end DocumentGateway.Http.Multipart

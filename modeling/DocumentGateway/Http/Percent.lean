import DocumentGateway.Json.Reader
import DocumentGateway.Text.Cut
import DocumentGateway.Text.Utf8

/-!
# Percent encoding

In paths and queries a percent sign and two hexadecimal digits stand for a byte. A
percent sign without two digits behind it stands for itself. A segment of a path must
be text once it is decoded. A query is a row of pairs with ampersands between them, and
an equals sign stands between name and value; there a plus sign stands for a space, and
bytes that are no text are replaced.
-/
namespace DocumentGateway.Http

/-- The percent sign. -/
def percentSign : UInt8 := 0x25

/-- The byte that two hexadecimal digits stand for. -/
def byteOfDigits? (high low : UInt8) : Option UInt8 := do
  let high ← Json.hexValue? (Char.ofNat high.toNat)
  let low ← Json.hexValue? (Char.ofNat low.toNat)
  some (UInt8.ofNat (high * 16 + low))

/-- The bytes with percent signs and digits replaced by what they stand for. -/
def percentDecode : Bytes → Bytes
  | byte :: high :: low :: rest =>
    if byte = percentSign then
      match byteOfDigits? high low with
      | some meant => meant :: percentDecode rest
      | none => byte :: percentDecode (high :: low :: rest)
    else byte :: percentDecode (high :: low :: rest)
  | bytes => bytes

/-- The text that a segment of a path stands for. -/
def segmentText? (segment : String) : Option String :=
  Utf8.decode? (percentDecode (Utf8.encode segment))

/-- The text that a name or a value of a query stands for. -/
def queryText (text : List Char) : String :=
  Utf8.decode
    (percentDecode (Utf8.encode (String.ofList (text.map fun c => if c = '+' then ' ' else c))))

/-- The name and the value of a part of a query. Without an equals sign the value is
empty. -/
def queryPair (part : List Char) : String × String :=
  (queryText (part.takeWhile (· ≠ '=')), queryText ((part.dropWhile (· ≠ '=')).drop 1))

/-- The pairs of a query. Empty parts are passed over. -/
def queryPairs (query : List Char) : List (String × String) :=
  ((Text.pieces '&' query).filter fun part => !part.isEmpty).map queryPair

end DocumentGateway.Http

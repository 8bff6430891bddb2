import DocumentGateway.Json.Printer
import DocumentGateway.Json.Reader
import DocumentGateway.Store.Error

/-!
# Stored documents

A document is stored as its JSON text, packed by a codec. Packing is a reversible
wrapping of the text: what one codec wrote only that codec reads, and reading gives
back the text exactly.
-/
namespace DocumentGateway

/-- The ways to pack stored text. -/
inductive Codec where
  | none
  | zstd
  deriving DecidableEq, Repr

/-- How documents are packed. The level trades speed for size and leaves no trace in
what is read back. -/
structure Compression where
  codec : Codec := .zstd
  level : Int := 3
  deriving DecidableEq, Repr

/-- A stored value: text as it is or packed text. -/
inductive Stored where
  | plain (text : String)
  | packed (text : String)
  deriving DecidableEq, Repr

namespace Compression

/-- Refuses a level that the codec does not have. -/
def validate (compression : Compression) : Except StoreError Unit :=
  match compression.codec with
  | .none => .ok ()
  | .zstd =>
    if 1 ≤ compression.level ∧ compression.level ≤ 22 then .ok ()
    else .error (.codec ("zstd level must be within 1..=22, got " ++ toString compression.level))

/-- Packs text. -/
def pack (compression : Compression) (text : String) : Stored :=
  match compression.codec with
  | .none => .plain text
  | .zstd => .packed text

/-- Unpacks a stored value, if this codec packed it. -/
def unpack? (compression : Compression) (stored : Stored) : Option String :=
  match compression.codec, stored with
  | .none, .plain text => some text
  | .zstd, .packed text => some text
  | _, _ => none

/-- The stored form of a document. -/
def encode (compression : Compression) (document : Document) : Stored :=
  compression.pack (Json.object document).toText

/-- The document in a stored value. -/
def decode (compression : Compression) (stored : Stored) : Except StoreError Document :=
  match (compression.unpack? stored).bind Json.ofText? with
  | some (.object document) => .ok document
  | some value => .error (.codec ("stored value is not a document: " ++ value.toText))
  | none => .error (.codec "the stored text is not JSON")

end Compression

end DocumentGateway

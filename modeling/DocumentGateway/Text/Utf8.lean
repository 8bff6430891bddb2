/-!
# UTF-8

Text travels as bytes. Encoding writes each character on its own. Decoding takes the
bytes apart into characters and faults: a fault is the longest run of bytes that starts
like a character and breaks off, or a single byte that starts none. Overlong forms,
surrogates and values beyond the last character are faults. Strict decoding refuses
every fault, and lenient decoding puts the replacement character in its place.
-/
namespace DocumentGateway

/-- A row of bytes. -/
abbrev Bytes := List UInt8

namespace Utf8

/-- The bytes of a text. -/
def encode (text : String) : Bytes :=
  text.toList.flatMap String.utf8EncodeChar

/-- What the first byte of a character says: how many bytes follow, the bounds of the
next byte, and the bits it contributes. -/
structure Lead where
  following : Nat
  lowest : Nat
  highest : Nat
  bits : Nat
  deriving DecidableEq, Repr

/-- The lead of a character of several bytes. -/
def lead? (byte : Nat) : Option Lead :=
  if 0xC2 ≤ byte ∧ byte ≤ 0xDF then some ⟨1, 0x80, 0xBF, byte - 0xC0⟩
  else if byte = 0xE0 then some ⟨2, 0xA0, 0xBF, 0⟩
  else if byte = 0xED then some ⟨2, 0x80, 0x9F, 0xD⟩
  else if 0xE1 ≤ byte ∧ byte ≤ 0xEF then some ⟨2, 0x80, 0xBF, byte - 0xE0⟩
  else if byte = 0xF0 then some ⟨3, 0x90, 0xBF, 0⟩
  else if 0xF1 ≤ byte ∧ byte ≤ 0xF3 then some ⟨3, 0x80, 0xBF, byte - 0xF0⟩
  else if byte = 0xF4 then some ⟨3, 0x80, 0x8F, 4⟩
  else none

/-- Reads the bytes that follow a lead, as far as they fit, and the bytes after them. -/
def readFollowing : Nat → Nat → Nat → Nat → Bytes → Option Nat × Bytes
  | 0, _, _, code, rest => (some code, rest)
  | _ + 1, _, _, _, [] => (none, [])
  | count + 1, lowest, highest, code, byte :: rest =>
    if lowest ≤ byte.toNat ∧ byte.toNat ≤ highest then
      readFollowing count 0x80 0xBF (code * 64 + (byte.toNat - 0x80)) rest
    else (none, byte :: rest)

/-- The first character, or none for a fault, and the bytes after it. -/
def readChar (byte : UInt8) (rest : Bytes) : Option Char × Bytes :=
  if byte < 0x80 then (some (Char.ofNat byte.toNat), rest)
  else match lead? byte.toNat with
    | none => (none, rest)
    | some lead =>
      let (code, rest) := readFollowing lead.following lead.lowest lead.highest lead.bits rest
      (code.map Char.ofNat, rest)

/-- The characters and the faults among the first bytes, at most as many as the number
says. -/
def readUnits : Nat → Bytes → List (Option Char)
  | 0, _ => []
  | _, [] => []
  | count + 1, byte :: rest =>
    let (character, rest) := readChar byte rest
    character :: readUnits count rest

/-- All characters and faults. -/
def units (bytes : Bytes) : List (Option Char) :=
  readUnits bytes.length bytes

/-- The text of bytes without a fault. -/
def decode? (bytes : Bytes) : Option String :=
  ((units bytes).mapM id).map String.ofList

/-- The text of bytes with the replacement character in the place of every fault. -/
def decode (bytes : Bytes) : String :=
  String.ofList ((units bytes).map fun unit => unit.getD '\uFFFD')

end Utf8

end DocumentGateway

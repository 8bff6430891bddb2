import DocumentGateway.Proofs.Http.Path
import DocumentGateway.Proofs.Json.StringText

/-!
# Escaped segments

Every text can be a segment of a path: each of its bytes is written as a percent sign and two
digits. An escaped text holds nothing else, so it neither ends a segment nor a path, and it is
decoded to the text.
-/
namespace DocumentGateway.Http

open Json (hexDigit)

/-- A segment of a path that stands for a name. -/
structure StandsFor (segment name : String) : Prop where
  nonempty : segment ≠ ""
  oneSegment : '/' ∉ segment.toList
  decoded : segmentText? segment = some name

/-- A byte as a percent sign and two digits. -/
def escapeByte (byte : UInt8) : List Char :=
  ['%', hexDigit (byte.toNat / 16), hexDigit (byte.toNat % 16)]

/-- A text with each of its bytes escaped. -/
def escape (text : String) : String :=
  String.ofList ((Utf8.encode text).flatMap escapeByte)

/-! ## Decoding -/

/-- A character below U+0080 is encoded as its code. -/
theorem utf8EncodeChar_ascii {c : Char} (ascii : c.toNat < 0x80) :
    String.utf8EncodeChar c = [UInt8.ofNat c.toNat] := by
  simp [String.utf8EncodeChar, Nat.le_of_lt_succ ascii]

/-- A digit is a character below U+0080, and its byte is read as the digit. -/
theorem hexValue?_byte {value : Nat} (small : value < 16) :
    (hexDigit value).toNat < 0x80 ∧
      Json.hexValue? (Char.ofNat (UInt8.ofNat (hexDigit value).toNat).toNat) = some value := by
  revert value
  decide

/-- An escape is decoded to its byte. -/
theorem percentDecode_escapeByte (byte : UInt8) (rest : Bytes) :
    percentDecode ((escapeByte byte).flatMap String.utf8EncodeChar ++ rest) =
      byte :: percentDecode rest := by
  have size : byte.toNat < 256 := byte.toNat_lt
  obtain ⟨highAscii, highRead⟩ := hexValue?_byte (show byte.toNat / 16 < 16 by omega)
  obtain ⟨lowAscii, lowRead⟩ := hexValue?_byte (show byte.toNat % 16 < 16 by omega)
  have joined : UInt8.ofNat (byte.toNat / 16 * 16 + byte.toNat % 16) = byte := by
    rw [Nat.div_add_mod']
    exact UInt8.ofNat_toNat
  have encoded : (escapeByte byte).flatMap String.utf8EncodeChar =
      [percentSign, UInt8.ofNat (hexDigit (byte.toNat / 16)).toNat,
        UInt8.ofNat (hexDigit (byte.toNat % 16)).toNat] := by
    simp only [escapeByte, List.flatMap_cons, List.flatMap_nil, utf8EncodeChar_ascii highAscii,
      utf8EncodeChar_ascii lowAscii, utf8EncodeChar_ascii (show '%'.toNat < 0x80 by decide)]
    rfl
  have meant : byteOfDigits? (UInt8.ofNat (hexDigit (byte.toNat / 16)).toNat)
      (UInt8.ofNat (hexDigit (byte.toNat % 16)).toNat) = some byte := by
    rw [byteOfDigits?, highRead, lowRead]
    exact congrArg some joined
  rw [encoded, List.cons_append, List.cons_append, List.cons_append, List.nil_append,
    percentDecode, if_pos rfl, meant]

/-- Escaped bytes are decoded to the bytes. -/
theorem percentDecode_escaped (bytes : Bytes) :
    percentDecode ((bytes.flatMap escapeByte).flatMap String.utf8EncodeChar) = bytes := by
  induction bytes with
  | nil => rfl
  | cons byte rest inductionHypothesis =>
    rw [List.flatMap_cons, List.flatMap_append, percentDecode_escapeByte, inductionHypothesis]

/-- An escaped text is decoded to the text. -/
theorem segmentText?_escape (text : String) : segmentText? (escape text) = some text := by
  rw [segmentText?, escape, Utf8.encode, String.toList_ofList, percentDecode_escaped,
    Utf8.decode?_encode]

/-! ## What an escaped text holds -/

/-- An escaped text holds percent signs and digits only. -/
theorem mem_escape {c : Char} {text : String} (member : c ∈ (escape text).toList) :
    c = '%' ∨ ∃ value < 16, c = hexDigit value := by
  rw [escape, String.toList_ofList] at member
  obtain ⟨byte, -, inEscape⟩ := List.mem_flatMap.mp member
  have size : byte.toNat < 256 := byte.toNat_lt
  simp only [escapeByte, List.mem_cons, List.not_mem_nil, or_false] at inEscape
  rcases inEscape with rfl | rfl | rfl
  · exact .inl rfl
  · exact .inr ⟨_, by omega, rfl⟩
  · exact .inr ⟨_, by omega, rfl⟩

/-- What is neither a percent sign nor a digit is in no escaped text. -/
theorem notMem_escape {c : Char} (different : c ≠ '%') (noDigit : Json.hexValue? c = none)
    (text : String) : c ∉ (escape text).toList := by
  intro member
  rcases mem_escape member with same | ⟨value, small, rfl⟩
  · exact different same
  · rw [Json.hexValue?_hexDigit small] at noDigit
    cases noDigit

/-- An escaped text begins with a percent sign. -/
theorem escape_begins {text : String} (nonempty : text ≠ "") :
    ∃ rest, (escape text).toList = '%' :: rest := by
  obtain ⟨c, others, characters⟩ :=
    List.exists_cons_of_ne_nil (show text.toList ≠ [] by simpa using nonempty)
  obtain ⟨first, following, encoded, -⟩ := Utf8.readChar_encodeChar c
  rw [escape, String.toList_ofList, Utf8.encode, characters, List.flatMap_cons, encoded]
  exact ⟨_, rfl⟩

/-- Every name has a segment that stands for it. -/
theorem standsFor_escape {name : String} (nonempty : name ≠ "") : StandsFor (escape name) name where
  nonempty := by
    intro bare
    obtain ⟨rest, begins⟩ := escape_begins nonempty
    rw [bare] at begins
    cases begins
  oneSegment := notMem_escape (by decide) (by decide) name
  decoded := segmentText?_escape name

end DocumentGateway.Http

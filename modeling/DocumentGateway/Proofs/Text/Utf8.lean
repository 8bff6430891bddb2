import DocumentGateway.Text.Utf8
import Mathlib.Data.Char
import Mathlib.Data.List.Basic
import Mathlib.Data.String.Basic

/-!
# Text as bytes and back

Encoded text decodes to itself. A character is encoded by one to four bytes, of which the
first tells how many follow, and its bounds for the next one exclude what is no character:
overlong forms, surrogates and values beyond the last character. So each character is read
back from its own bytes, whatever follows them. Texts compared by their bytes stand in the same
order as compared by their characters.
-/
namespace DocumentGateway.Utf8

/-! ## One character -/

/-- What stands in the six low bits of a following byte joins the code read so far. -/
theorem readFollowing_step {count lowest highest code low : Nat} (rest : Bytes)
    (small : low < 64) (notBelow : lowest ≤ low + 128) (notAbove : low + 128 ≤ highest) :
    readFollowing (count + 1) lowest highest code (UInt8.ofNat (low + 128) :: rest) =
      readFollowing count 0x80 0xBF (code * 64 + low) rest := by
  have byte : (UInt8.ofNat (low + 128)).toNat = low + 128 := by
    simpa using Nat.mod_eq_of_lt (show low + 128 < 256 by omega)
  rw [readFollowing, byte, if_pos ⟨notBelow, notAbove⟩, Nat.add_sub_cancel]

/-- The last bytes of a character have no bounds of their own. -/
theorem readFollowing_inner {count code low : Nat} (rest : Bytes) (small : low < 64) :
    readFollowing (count + 1) 0x80 0xBF code (UInt8.ofNat (low + 128) :: rest) =
      readFollowing count 0x80 0xBF (code * 64 + low) rest :=
  readFollowing_step rest small (by omega) (by omega)

/-- A lead of two bytes. -/
theorem lead?_two (bits : Nat) (notOverlong : 2 ≤ bits) (small : bits < 32) :
    lead? (bits + 192) = some ⟨1, 0x80, 0xBF, bits⟩ := by
  rw [lead?, if_pos (by omega), Nat.add_sub_cancel]

/-- A lead of three bytes bounds the next byte so that the code is neither overlong nor a
surrogate. -/
theorem lead?_three (bits next : Nat) (small : bits < 16) (nextSmall : next < 64)
    (notOverlong : 32 ≤ bits * 64 + next)
    (character : bits * 64 + next < 864 ∨ 896 ≤ bits * 64 + next) :
    ∃ lowest highest, lead? (bits + 224) = some ⟨2, lowest, highest, bits⟩ ∧
      lowest ≤ next + 128 ∧ next + 128 ≤ highest := by
  unfold lead?
  rw [if_neg (by omega)]
  by_cases first : bits = 0
  · subst first
    exact ⟨_, _, rfl, by omega, by omega⟩
  by_cases surrogate : bits = 13
  · subst surrogate
    exact ⟨_, _, rfl, by omega, by omega⟩
  rw [if_neg (by omega), if_neg (by omega), if_pos (by omega), Nat.add_sub_cancel]
  exact ⟨_, _, rfl, by omega, by omega⟩

/-- A lead of four bytes bounds the next byte so that the code is neither overlong nor beyond
the last character. -/
theorem lead?_four (bits next : Nat) (nextSmall : next < 64)
    (notOverlong : 16 ≤ bits * 64 + next) (character : bits * 64 + next < 272) :
    ∃ lowest highest, lead? (bits + 240) = some ⟨3, lowest, highest, bits⟩ ∧
      lowest ≤ next + 128 ∧ next + 128 ≤ highest := by
  have few : bits = 0 ∨ bits = 1 ∨ bits = 2 ∨ bits = 3 ∨ bits = 4 := by omega
  rcases few with rfl | rfl | rfl | rfl | rfl <;>
    exact ⟨_, _, rfl, by omega, by omega⟩

/-- The first byte of several says that they follow. -/
theorem readChar_lead {first : Nat} {lead : Lead} (found : lead? first = some lead)
    (several : 0x80 ≤ first) (byte : first < 256) (rest : Bytes) :
    readChar (UInt8.ofNat first) rest =
      ((readFollowing lead.following lead.lowest lead.highest lead.bits rest).1.map Char.ofNat,
        (readFollowing lead.following lead.lowest lead.highest lead.bits rest).2) := by
  have value : (UInt8.ofNat first).toNat = first := by
    simpa using Nat.mod_eq_of_lt byte
  have notOne : ¬ UInt8.ofNat first < 0x80 := by
    rw [UInt8.lt_iff_toNat_lt, value]
    exact Nat.not_lt.mpr several
  rw [readChar, if_neg notOne, value, found]

/-- The code of a character is no surrogate and not beyond the last one. -/
theorem code_bounds (c : Char) :
    c.val.toNat < 0xD800 ∨ 0xE000 ≤ c.val.toNat ∧ c.val.toNat < 0x110000 := by
  rcases c.valid with below | ⟨above, last⟩
  · exact .inl below
  · exact .inr ⟨above, last⟩

/-- A character is read from the bytes that encode it. The cases are the four lengths that an
encoding can have. -/
theorem readChar_encodeChar (c : Char) :
    ∃ first following, String.utf8EncodeChar c = first :: following ∧
      ∀ rest, readChar first (following ++ rest) = (some c, rest) := by
  have bounds := code_bounds c
  have back : Char.ofNat c.val.toNat = c := Char.ofNat_toNat c
  unfold String.utf8EncodeChar
  generalize c.val.toNat = code at bounds back
  dsimp only
  split_ifs with one two three
  · refine ⟨_, _, rfl, fun rest => ?_⟩
    have value : (UInt8.ofNat code).toNat = code := by
      simpa using Nat.mod_eq_of_lt (show code < 256 by omega)
    have ascii : UInt8.ofNat code < 0x80 := by
      rw [UInt8.lt_iff_toNat_lt, value]
      exact Nat.lt_succ_of_le one
    rw [readChar, if_pos ascii, value, back]
    rfl
  · refine ⟨_, _, rfl, fun rest => ?_⟩
    have lead := lead?_two (code / 64 % 32) (by omega) (by omega)
    have whole : code / 64 % 32 * 64 + code % 64 = code := by omega
    rw [readChar_lead lead (by omega) (by omega), List.cons_append, List.nil_append,
      readFollowing_inner rest (by omega), readFollowing, whole, Option.map_some, back]
  · refine ⟨_, _, rfl, fun rest => ?_⟩
    obtain ⟨lowest, highest, lead, notBelow, notAbove⟩ :=
      lead?_three (code / 4096 % 16) (code / 64 % 64) (by omega) (by omega)
        (by omega) (by omega)
    have whole : (code / 4096 % 16 * 64 + code / 64 % 64) * 64 + code % 64 = code := by omega
    rw [readChar_lead lead (by omega) (by omega), List.cons_append, List.cons_append,
      List.nil_append, readFollowing_step _ (by omega) notBelow notAbove,
      readFollowing_inner rest (by omega), readFollowing, whole, Option.map_some, back]
  · refine ⟨_, _, rfl, fun rest => ?_⟩
    obtain ⟨lowest, highest, lead, notBelow, notAbove⟩ :=
      lead?_four (code / 262144 % 8) (code / 4096 % 64) (by omega) (by omega)
        (by omega)
    have whole : ((code / 262144 % 8 * 64 + code / 4096 % 64) * 64 + code / 64 % 64) * 64 +
        code % 64 = code := by omega
    rw [readChar_lead lead (by omega) (by omega), List.cons_append, List.cons_append,
      List.cons_append, List.nil_append, readFollowing_step _ (by omega) notBelow notAbove,
      readFollowing_inner _ (by omega), readFollowing_inner rest (by omega), readFollowing, whole,
      Option.map_some, back]

/-! ## Whole texts -/

/-- The characters are read one after another, and no more of them than there are bytes. -/
theorem readUnits_encoded (characters : List Char) :
    ∀ count, characters.length ≤ count →
      readUnits count (characters.flatMap String.utf8EncodeChar) = characters.map some := by
  induction characters with
  | nil =>
    intro count _
    cases count <;> rfl
  | cons c rest inductionHypothesis =>
    intro count enough
    obtain ⟨count, rfl⟩ := Nat.exists_eq_add_of_lt (Nat.lt_of_lt_of_le (Nat.succ_pos _) enough)
    obtain ⟨first, following, encoded, read⟩ := readChar_encodeChar c
    rw [List.flatMap_cons, encoded, List.cons_append, Nat.zero_add, readUnits, read]
    simp only [List.map_cons, inductionHypothesis count (by simpa using enough)]

/-- No character is encoded as nothing, so the bytes bound the number of characters. -/
theorem length_le_encoded (characters : List Char) :
    characters.length ≤ (characters.flatMap String.utf8EncodeChar).length := by
  induction characters with
  | nil => simp
  | cons c rest inductionHypothesis =>
    obtain ⟨first, following, encoded, -⟩ := readChar_encodeChar c
    rw [List.flatMap_cons, encoded]
    simp only [List.cons_append, List.length_cons, List.length_append]
    omega

/-- Encoded text decodes to itself. -/
theorem decode?_encode (text : String) : decode? (encode text) = some text := by
  have read : units (encode text) = text.toList.map some :=
    readUnits_encoded text.toList _ (length_le_encoded text.toList)
  have all : ∀ characters : List Char, (characters.map some).mapM id = some characters := by
    intro characters
    induction characters with
    | nil => rfl
    | cons c rest inductionHypothesis => simp [inductionHypothesis]
  rw [decode?, read, all, Option.map_some, String.ofList_toList]

/-- A byte below 0x80 encodes a whole character. -/
theorem ascii_of_mem_encodeChar {c : Char} {byte : UInt8}
    (member : byte ∈ String.utf8EncodeChar c) (ascii : byte.toNat < 0x80) :
    Char.ofNat byte.toNat = c := by
  have back : Char.ofNat c.val.toNat = c := Char.ofNat_toNat c
  unfold String.utf8EncodeChar at member
  generalize c.val.toNat = code at member back
  dsimp only at member
  split_ifs at member with one two three
  · obtain rfl := List.mem_singleton.mp member
    have value : (UInt8.ofNat code).toNat = code := by
      simpa using Nat.mod_eq_of_lt (show code < 256 by omega)
    rw [value, back]
  all_goals
    simp only [List.mem_cons, List.not_mem_nil, or_false] at member
    rcases member with rfl | rfl | rfl | rfl <;>
    · simp only [UInt8.toNat_ofNat'] at ascii
      omega

/-- The bytes below 0x80 in an encoded text stand for its own characters. -/
theorem ascii_of_mem_encode {text : String} {byte : UInt8} (member : byte ∈ encode text)
    (ascii : byte.toNat < 0x80) : Char.ofNat byte.toNat ∈ text.toList := by
  obtain ⟨c, inText, inCode⟩ := List.mem_flatMap.mp member
  rw [ascii_of_mem_encodeChar inCode ascii]
  exact inText

/-! ## The order of bytes -/

/-- The bytes of one text come before those of another, as rows of numbers. -/
def Precedes (left right : String) : Prop :=
  encode left < encode right

/-- Bytes are compared by their first one, and by the rest where this one is the same. -/
theorem cons_ofNat_lt_iff {low high : Nat} (byte : low < 256) (otherByte : high < 256)
    (rest others : Bytes) :
    UInt8.ofNat low :: rest < UInt8.ofNat high :: others ↔
      low < high ∨ low = high ∧ rest < others := by
  have value : (UInt8.ofNat low).toNat = low := by simpa using Nat.mod_eq_of_lt byte
  have otherValue : (UInt8.ofNat high).toNat = high := by simpa using Nat.mod_eq_of_lt otherByte
  rw [List.cons_lt_cons_iff, UInt8.lt_iff_toNat_lt, ← UInt8.toNat_inj, value, otherValue]

/-- The bytes of a character come before those of a greater one, whatever follows them. The cases
are the lengths that the two encodings can have. In encodings of one length the bytes are the
digits of the codes to the base 64, and a longer encoding begins with a greater byte. -/
theorem encodeChar_append_lt {c d : Char} (smaller : c < d) (rest others : Bytes) :
    String.utf8EncodeChar c ++ rest < String.utf8EncodeChar d ++ others := by
  have less : c.val.toNat < d.val.toNat := smaller
  have bounds := code_bounds d
  have twoDigits : ∀ code, code / 4096 = code / 64 / 64 := fun code => by omega
  have threeDigits : ∀ code, code / 262144 = code / 64 / 64 / 64 := fun code => by omega
  unfold String.utf8EncodeChar
  generalize c.val.toNat = code at less
  generalize d.val.toNat = greater at less bounds
  dsimp only
  split_ifs
  -- The greater character cannot have the shorter encoding.
  all_goals try omega
  all_goals
    simp (disch := omega) only [List.cons_append, List.nil_append, cons_ofNat_lt_iff, twoDigits,
      threeDigits]
    omega

/-- Rows of characters in order have their bytes in order. They part at two characters, or the first
row ends and the second one goes on with at least one byte. -/
theorem flatMap_encodeChar_lt {left right : List Char} (smaller : left < right) :
    left.flatMap String.utf8EncodeChar < right.flatMap String.utf8EncodeChar := by
  induction smaller with
  | @nil c rest =>
    obtain ⟨first, following, bytes, -⟩ := readChar_encodeChar c
    rw [List.flatMap_cons, bytes]
    exact List.nil_lt_cons _ _
  | rel smaller => exact encodeChar_append_lt smaller _ _
  | cons _ inductionHypothesis => exact List.append_left_lt inductionHypothesis

/-- A smaller text is encoded as smaller bytes: UTF-8 keeps the order of characters. -/
theorem precedes_of_lt {left right : String} (smaller : left < right) : Precedes left right :=
  flatMap_encodeChar_lt (String.lt_iff.mp smaller)

/-- Texts are ordered as their bytes are. -/
theorem precedes_iff {left right : String} : Precedes left right ↔ left < right := by
  refine ⟨fun precedes => ?_, precedes_of_lt⟩
  rcases lt_trichotomy left right with smaller | rfl | greater
  · exact smaller
  · exact absurd precedes (List.lt_irrefl _)
  · exact absurd precedes (List.lt_asymm (precedes_of_lt greater))

end DocumentGateway.Utf8

import DocumentGateway.Json.Printer
import DocumentGateway.Json.Reader

/-!
# Strings as text and back

A character of a string is written as itself or as an escape, and the reader gets the same
character from either. So every string is read back from its text, whatever follows its
closing quote.
-/
namespace DocumentGateway.Json

/-- The hexadecimal digit that is written for a value is read as this value. -/
theorem hexValue?_hexDigit {value : Nat} (small : value < 16) :
    hexValue? (hexDigit value) = some value := by
  revert value
  decide

/-- A control character is read back from its numeric escape. -/
theorem readUnicode_control {c : Char} (control : c.toNat < 0x20) (rest : List Char) :
    readUnicode ('0' :: '0' :: hexDigit (c.toNat / 16) :: hexDigit (c.toNat % 16) :: rest) =
      some (c, rest) := by
  have high := hexValue?_hexDigit (show c.toNat / 16 < 16 by omega)
  have low := hexValue?_hexDigit (show c.toNat % 16 < 16 by omega)
  have unit : readHex4 ('0' :: '0' :: hexDigit (c.toNat / 16) :: hexDigit (c.toNat % 16) :: rest) =
      some (c.toNat, rest) := by
    have zero : hexValue? '0' = some 0 := by decide
    have joined : c.toNat / 16 * 16 + c.toNat % 16 = c.toNat := by omega
    simp [readHex4, zero, high, low, joined]
  have notHigh : ¬ (0xD800 ≤ c.toNat ∧ c.toNat < 0xDC00) := by omega
  have notLow : ¬ (0xDC00 ≤ c.toNat ∧ c.toNat < 0xE000) := by omega
  simp [readUnicode, unit, notHigh, notLow]

/-- A character is written as an escape that stands for it, or as itself if the reader
takes it for itself. -/
theorem printChar_cases (c : Char) :
    (∃ escape, printChar c = '\\' :: escape ∧ ∀ rest, readEscape (escape ++ rest) = some (c, rest)) ∨
      (printChar c = [c] ∧ c ≠ '"' ∧ c ≠ '\\' ∧ ¬ c.toNat < 0x20) := by
  unfold printChar
  split
  · rename_i quote
    exact .inl ⟨['"'], rfl, fun rest => by rw [quote]; rfl⟩
  split
  · rename_i backslash
    exact .inl ⟨['\\'], rfl, fun rest => by rw [backslash]; rfl⟩
  split
  · rename_i lineFeed
    exact .inl ⟨['n'], rfl, fun rest => by rw [lineFeed]; rfl⟩
  split
  · rename_i carriageReturn
    exact .inl ⟨['r'], rfl, fun rest => by rw [carriageReturn]; rfl⟩
  split
  · rename_i tab
    exact .inl ⟨['t'], rfl, fun rest => by rw [tab]; rfl⟩
  split
  · rename_i backspace
    exact .inl ⟨['b'], rfl, fun rest => by rw [backspace]; rfl⟩
  split
  · rename_i formFeed
    exact .inl ⟨['f'], rfl, fun rest => by rw [formFeed]; rfl⟩
  split
  · rename_i control
    exact .inl ⟨_, rfl, readUnicode_control control⟩
  · rename_i notQuote notBackslash _ _ _ _ _ notControl
    exact .inr ⟨rfl, notQuote, notBackslash, notControl⟩

/-- One written character is read as the character. -/
theorem readText_printChar (fuel : Nat) (done : List Char) (c : Char) (rest : List Char) :
    readText (fuel + 1) done (printChar c ++ rest) = readText fuel (c :: done) rest := by
  rcases printChar_cases c with ⟨escape, printed, read⟩ | ⟨printed, notQuote, notBackslash, notControl⟩
  · rw [printed, List.cons_append, readText, read rest]
  · rw [printed, List.cons_append, List.nil_append, readText]
    · rw [if_neg notControl]
    · exact notQuote
    · exact notBackslash

/-- The characters of a string are read up to the closing quote. The number of steps is
bounded by the number of characters and one more. -/
theorem readText_printed {text : List Char} {fuel : Nat} (enough : text.length < fuel)
    (done rest : List Char) :
    readText fuel done (text.flatMap printChar ++ '"' :: rest) =
      some (String.ofList (done.reverse ++ text), rest) := by
  induction text generalizing fuel done with
  | nil =>
    obtain ⟨fuel, rfl⟩ := Nat.exists_eq_succ_of_ne_zero (Nat.ne_of_gt enough)
    simp [readText]
  | cons c text inductionHypothesis =>
    obtain ⟨fuel, rfl⟩ := Nat.exists_eq_succ_of_ne_zero (Nat.ne_zero_of_lt enough)
    rw [List.flatMap_cons, List.append_assoc, readText_printChar,
      inductionHypothesis (Nat.lt_of_succ_lt_succ enough)]
    simp

/-- No character is printed as nothing. -/
theorem length_printChar (c : Char) : 1 ≤ (printChar c).length := by
  rcases printChar_cases c with ⟨escape, printed, -⟩ | ⟨printed, -⟩ <;> simp [printed]

/-- A printed text is at least as long as the text, which bounds the fuel of reading it. -/
theorem length_le_printed (text : List Char) : text.length ≤ (text.flatMap printChar).length := by
  induction text with
  | nil => exact Nat.le_refl 0
  | cons c text inductionHypothesis =>
    have shown := length_printChar c
    rw [List.flatMap_cons, List.length_append, List.length_cons]
    omega

/-- A string is read back from its text, whose opening quote has been read. -/
theorem readText_printText (text : String) (rest : List Char) :
    ∃ quoted, printText text ++ rest = '"' :: quoted ∧
      readText (quoted.length + 1) [] quoted = some (text, rest) := by
  refine ⟨text.toList.flatMap printChar ++ '"' :: rest, by simp [printText], ?_⟩
  have enough : text.toList.length <
      (text.toList.flatMap printChar ++ '"' :: rest).length + 1 := by
    have written := length_le_printed text.toList
    rw [List.length_append]
    omega
  rw [readText_printed enough]
  simp

end DocumentGateway.Json

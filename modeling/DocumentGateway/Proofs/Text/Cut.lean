import DocumentGateway.Text.Cut
import Mathlib.Data.List.Basic

/-!
# Cutting at a symbol and at one character

A text is cut at the first occurrence of a symbol. It is cut at the first occurrence of a
character, or at all of them. So a text that is put together from parts with the character
between them is cut into these parts, if they do not hold the character.
-/
namespace DocumentGateway.Text

variable {α : Type} [DecidableEq α]

/-! ## Cutting at a symbol -/

/-- Cutting at a symbol takes its first occurrence out, as the library does it. -/
theorem cutAt?_eq_dropInfix? (symbol text : List α) :
    cutAt? symbol text = text.dropInfix? symbol := by
  have samePrefix : ∀ text : List α, text.dropPrefix? symbol = symbol.isPrefixOf? text := by
    intro text
    ext rest
    rw [List.dropPrefix?_eq_some_iff, List.isPrefixOf?_eq_some_iff_append_eq]
    constructor
    · rintro ⟨front, rfl, same⟩
      rw [eq_of_beq same]
    · rintro rfl
      exact ⟨symbol, rfl, beq_self_eq_true symbol⟩
  -- The library collects the characters that are passed, in reverse.
  have walked : ∀ text passed : List α, List.dropInfix?.go symbol text passed =
      (cutAt? symbol text).map fun cut => (passed.reverse ++ cut.1, cut.2) := by
    intro text
    induction text with
    | nil =>
      intro passed
      by_cases bare : symbol.isEmpty <;> simp [List.dropInfix?.go, cutAt?, bare]
    | cons c rest inductionHypothesis =>
      intro passed
      rw [List.dropInfix?.go, cutAt?, samePrefix]
      cases symbol.isPrefixOf? (c :: rest) with
      | some after => simp
      | none => simp [inductionHypothesis, Function.comp_def]
  rw [List.dropInfix?, walked]
  simp

/-- A text is cut at the first place where the symbol occurs, and nowhere else. -/
theorem cutAt?_eq_some_iff {symbol text before after : List α} :
    cutAt? symbol text = some (before, after) ↔
      text = before ++ symbol ++ after ∧
        ∀ earlier rest, text = earlier ++ symbol ++ rest → before.length ≤ earlier.length := by
  rw [cutAt?_eq_dropInfix?, List.dropInfix?_eq_some_iff]
  constructor
  · rintro ⟨⟨found, whole, same⟩, least⟩
    obtain rfl := eq_of_beq same
    exact ⟨whole, fun earlier rest split => least earlier found rest split same⟩
  · rintro ⟨whole, least⟩
    refine ⟨⟨symbol, whole, beq_self_eq_true symbol⟩, ?_⟩
    intro earlier found rest split same
    obtain rfl := eq_of_beq same
    exact least earlier rest split

/-- A text is not cut exactly if the symbol does not occur in it. -/
theorem cutAt?_eq_none_iff {symbol text : List α} :
    cutAt? symbol text = none ↔ ¬ symbol <:+: text := by
  induction text with
  | nil => by_cases bare : symbol = [] <;> simp [cutAt?, bare]
  | cons c rest inductionHypothesis =>
    rw [List.infix_cons_iff, cutAt?]
    cases starts : symbol.isPrefixOf? (c :: rest) with
    | some after =>
      have begins : symbol <+: c :: rest := ⟨after, List.isPrefixOf?_eq_some_iff_append_eq.mp starts⟩
      simp [begins]
    | none =>
      have begins : ¬ symbol <+: c :: rest := by
        rintro ⟨after, whole⟩
        rw [List.isPrefixOf?_eq_some_iff_append_eq.mpr whole] at starts
        cases starts
      simp [begins, inductionHypothesis]

/-! ## Cutting at one character -/

/-- Cutting at one element, by the first element of the text. -/
theorem cutAt?_singleton_cons (separator c : α) (rest : List α) :
    cutAt? [separator] (c :: rest) =
      if separator = c then some ([], rest)
      else (cutAt? [separator] rest).map fun (before, after) => (c :: before, after) := by
  by_cases same : separator = c
  · simp [cutAt?, List.isPrefixOf?, same]
  · simp [cutAt?, List.isPrefixOf?, same]

/-- A text is cut where its first part, which does not hold the separator, ends. -/
theorem cutAt?_singleton_append {separator : α} {before : List α} (after : List α)
    (absent : separator ∉ before) :
    cutAt? [separator] (before ++ separator :: after) = some (before, after) := by
  induction before with
  | nil => simp [cutAt?_singleton_cons]
  | cons c rest inductionHypothesis =>
    obtain ⟨different, absentRest⟩ : separator ≠ c ∧ separator ∉ rest := by simpa using absent
    simp [cutAt?_singleton_cons, different, inductionHypothesis absentRest]

/-- The pieces of a text are those that the library splits a list into. -/
theorem pieces_eq_splitOn (separator : Char) (text : List Char) :
    pieces separator text = text.splitOn separator := by
  induction text with
  | nil => rfl
  | cons c rest inductionHypothesis =>
    obtain ⟨first, others, cut⟩ := List.exists_cons_of_ne_nil (List.splitOn_ne_nil separator rest)
    rw [List.splitOn_cons_eq_if_modifyHead, pieces, inductionHypothesis, cut]
    by_cases same : c = separator <;> simp [same]

/-- There is always a first piece. -/
theorem exists_pieces_eq_cons (separator : Char) (text : List Char) :
    ∃ first others, pieces separator text = first :: others := by
  rw [pieces_eq_splitOn]
  exact List.exists_cons_of_ne_nil (List.splitOn_ne_nil separator text)

/-- A text without the separator is its own single piece. -/
theorem pieces_eq_singleton {separator : Char} {text : List Char} (absent : separator ∉ text) :
    pieces separator text = [text] := by
  rw [pieces_eq_splitOn, List.splitOn_eq_singleton absent]

/-- The first piece ends at the first separator. -/
theorem pieces_append {separator : Char} {before : List Char} (after : List Char)
    (absent : separator ∉ before) :
    pieces separator (before ++ separator :: after) = before :: pieces separator after := by
  rw [pieces_eq_splitOn, List.splitOn_append_cons_self_of_not_mem absent, ← pieces_eq_splitOn]

/-- Two texts with the separator between them are cut into the pieces of the one and then
those of the other. -/
theorem pieces_append_cons (separator : Char) (before after : List Char) :
    pieces separator (before ++ separator :: after) =
      pieces separator before ++ pieces separator after := by
  simp only [pieces_eq_splitOn, List.splitOn_append_cons_self]

/-- There is one piece more than there are separators. -/
theorem length_pieces (separator : Char) (text : List Char) :
    (pieces separator text).length = text.count separator + 1 := by
  induction text with
  | nil => rfl
  | cons c rest inductionHypothesis =>
    obtain ⟨first, others, cut⟩ := exists_pieces_eq_cons separator rest
    rw [cut] at inductionHypothesis
    rw [pieces, cut]
    by_cases same : c = separator
    · simpa [same] using inductionHypothesis
    · simpa [same] using inductionHypothesis

/-- A text is recovered from its pieces. -/
theorem intercalate_pieces (separator : Char) (text : List Char) :
    [separator].intercalate (pieces separator text) = text := by
  rw [pieces_eq_splitOn, List.intercalate_splitOn]

/-- No piece holds the separator. -/
theorem separator_notMem_piece {separator : Char} {text piece : List Char}
    (member : piece ∈ pieces separator text) : separator ∉ piece := by
  induction text generalizing piece with
  | nil =>
    obtain rfl : piece = [] := by simpa [pieces] using member
    exact List.not_mem_nil
  | cons c rest inductionHypothesis =>
    obtain ⟨first, others, cut⟩ := exists_pieces_eq_cons separator rest
    rw [cut] at inductionHypothesis
    rw [pieces, cut] at member
    split at member
    · rcases List.mem_cons.mp member with rfl | later
      · exact List.not_mem_nil
      · exact inductionHypothesis later
    · rename_i different
      rcases List.mem_cons.mp member with rfl | later
      · exact List.not_mem_cons_of_ne_of_not_mem (Ne.symm different)
          (inductionHypothesis List.mem_cons_self)
      · exact inductionHypothesis (List.mem_cons_of_mem first later)

/-- Parts that do not hold the separator are the pieces of what they make up with the separator
between them. -/
theorem pieces_intercalate {separator : Char} {parts : List (List Char)} (nonempty : parts ≠ [])
    (absent : ∀ part ∈ parts, separator ∉ part) :
    pieces separator ([separator].intercalate parts) = parts := by
  rw [pieces_eq_splitOn, List.splitOn_intercalate separator absent nonempty]

/-- Texts with the same pieces are the same. -/
theorem pieces_inj {separator : Char} {left right : List Char} :
    pieces separator left = pieces separator right ↔ left = right := by
  refine ⟨fun same => ?_, fun same => same ▸ rfl⟩
  rw [← intercalate_pieces separator left, same, intercalate_pieces]

/-- What stands in a piece stands in the text. -/
theorem mem_of_mem_piece {separator c : Char} {text piece : List Char}
    (member : piece ∈ pieces separator text) (inPiece : c ∈ piece) : c ∈ text := by
  induction text generalizing piece with
  | nil =>
    obtain rfl : piece = [] := by simpa [pieces] using member
    cases inPiece
  | cons d rest inductionHypothesis =>
    obtain ⟨first, others, cut⟩ := exists_pieces_eq_cons separator rest
    rw [cut] at inductionHypothesis
    rw [pieces, cut] at member
    split at member
    · rcases List.mem_cons.mp member with rfl | later
      · cases inPiece
      · exact List.mem_cons_of_mem d (inductionHypothesis later inPiece)
    · rcases List.mem_cons.mp member with rfl | later
      · rcases List.mem_cons.mp inPiece with rfl | inFirst
        · exact List.mem_cons_self
        · exact List.mem_cons_of_mem d (inductionHypothesis List.mem_cons_self inFirst)
      · exact List.mem_cons_of_mem d (inductionHypothesis (List.mem_cons_of_mem first later) inPiece)

end DocumentGateway.Text

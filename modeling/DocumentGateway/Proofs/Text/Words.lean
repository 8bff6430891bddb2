import DocumentGateway.Text.Blank
import DocumentGateway.Text.Cut
import Mathlib.Data.String.Basic

/-!
# Words

Words are put together with blanks between them, and a text of words is cut into them again.
-/
namespace DocumentGateway.Text

/-- A text that is a single word. -/
structure IsWord (text : List Char) : Prop where
  nonempty : text ≠ []
  blankFree : ∀ c ∈ text, isBlank c = false

/-- A word goes on with the next character. -/
theorem words_cons {c next : Char} {word : List Char} {rest : List Char} {others : List (List Char)}
    (visible : isBlank c = false) (nextVisible : isBlank next = false)
    (cut : words (next :: rest) = word :: others) :
    words (c :: next :: rest) = (c :: word) :: others := by
  rw [words]
  simp [visible, nextVisible, cut]

/-- A word is its own single word. -/
theorem words_word {word : List Char} (isWord : IsWord word) : words word = [word] := by
  obtain ⟨nonempty, blankFree⟩ := isWord
  induction word with
  | nil => exact absurd rfl nonempty
  | cons c rest inductionHypothesis =>
    obtain ⟨visible, restVisible⟩ := List.forall_mem_cons.mp blankFree
    cases rest with
    | nil => simp [words, visible]
    | cons next more =>
      exact words_cons visible (restVisible next List.mem_cons_self)
        (inductionHypothesis (List.cons_ne_nil next more) restVisible)

/-- A word ends at a space. -/
theorem words_append {word : List Char} (isWord : IsWord word) (rest : List Char) :
    words (word ++ ' ' :: rest) = word :: words rest := by
  have space : isBlank ' ' = true := by decide
  obtain ⟨nonempty, blankFree⟩ := isWord
  induction word with
  | nil => exact absurd rfl nonempty
  | cons c later inductionHypothesis =>
    obtain ⟨visible, laterVisible⟩ := List.forall_mem_cons.mp blankFree
    cases later with
    | nil => simp [words, visible, space]
    | cons next more =>
      exact words_cons visible (laterVisible next List.mem_cons_self)
        (inductionHypothesis (List.cons_ne_nil next more) laterVisible)

/-- Words with spaces between them are the words of what they make up. -/
theorem words_join {parts : List String} (each : ∀ part ∈ parts, IsWord part.toList) :
    words (join " " parts).toList = parts.map String.toList := by
  induction parts with
  | nil => rfl
  | cons part rest inductionHypothesis =>
    obtain ⟨isWord, restWords⟩ := List.forall_mem_cons.mp each
    cases rest with
    | nil => simpa [join] using words_word isWord
    | cons next more =>
      have text : (join " " (part :: next :: more)).toList =
          part.toList ++ ' ' :: (join " " (next :: more)).toList := by
        simp [join]
      rw [text, words_append isWord, inductionHypothesis restWords]
      rfl

end DocumentGateway.Text

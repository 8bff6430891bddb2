import DocumentGateway.Text.Blank
import Mathlib.Data.List.DropRight
import Mathlib.Data.List.TakeWhile

/-!
# Trimming

A trimmed text neither begins nor ends with a blank character, so trimming it again changes
nothing. Trimming leaves nothing of a blank text, and adds no character to any text.
-/
namespace DocumentGateway.Text

/-- Trimming is done at the start and then at the end, there as by the library. -/
theorem trim_eq_rdropWhile (text : List Char) :
    trim text = (text.dropWhile isBlank).rdropWhile isBlank := rfl

/-- What trimming leaves stands at the end of the text, apart from blank characters. -/
theorem mem_of_mem_trim {c : Char} {text : List Char} (member : c ∈ trim text) : c ∈ text := by
  rw [trim_eq_rdropWhile] at member
  have behindBlanks : c ∈ text.dropWhile isBlank := (List.rdropWhile_prefix isBlank _).subset member
  exact (List.dropWhile_suffix _).subset behindBlanks

/-- Nothing is left of a text exactly if all of it is blank. -/
theorem trim_eq_nil_iff {text : List Char} : trim text = [] ↔ ∀ c ∈ text, isBlank c = true := by
  rw [trim_eq_rdropWhile, List.rdropWhile_eq_nil_iff]
  constructor
  · intro blankRest c member
    rw [← List.takeWhile_append_dropWhile (p := isBlank) (l := text)] at member
    rcases List.mem_append.mp member with inFront | inRest
    · exact List.mem_takeWhile_imp inFront
    · exact blankRest c inRest
  · intro blank c member
    exact blank c ((List.dropWhile_suffix _).subset member)

/-- The first character that is left is visible. -/
theorem dropWhile_trim (text : List Char) : (trim text).dropWhile isBlank = trim text := by
  rw [List.dropWhile_eq_self_iff]
  intro nonempty
  have front : trim text <+: text.dropWhile isBlank := List.rdropWhile_prefix isBlank _
  rw [front.getElem nonempty]
  exact List.dropWhile_get_zero_not isBlank text (nonempty.trans_le front.length_le)

/-- A trimmed text is trimmed once and for all. -/
theorem trim_trim (text : List Char) : trim (trim text) = trim text := by
  rw [trim_eq_rdropWhile (trim text), dropWhile_trim]
  exact List.rdropWhile_idempotent isBlank _

end DocumentGateway.Text

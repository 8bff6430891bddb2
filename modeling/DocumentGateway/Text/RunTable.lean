import DocumentGateway.Text.CharSet
import DocumentGateway.Text.Cut
import DocumentGateway.Decimal.Reading

/-!
# Tables of runs

A table gives names to code points. It is written as rows of runs, from the first code
point to the last: the name of a run, made of letters, and how many code points it
covers. Code points without a name are covered by runs that are a bare number.
-/
namespace DocumentGateway.Text

/-- The ranges of the runs whose names are chosen. The first run starts at `start`. -/
def rangesOfRuns (chosen : String → Bool) (start : Nat) : List (List Char) → List CharRange
  | [] => []
  | run :: others =>
    let (name, digits) := run.span Char.isAlpha
    let next := start + Decimal.natural digits
    let after := rangesOfRuns chosen next others
    if chosen (String.ofList name) then ⟨start, next - 1⟩ :: after else after

/-- The characters of the runs whose names are chosen. -/
def CharSet.ofRuns (table : List String) (chosen : String → Bool) : CharSet :=
  CharSet.ofRanges (rangesOfRuns chosen 0 (table.flatMap fun row => pieces ' ' row.toList))

end DocumentGateway.Text

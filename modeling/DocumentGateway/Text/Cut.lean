/-!
# Cutting text at a separator

`pieces` cuts at every occurrence of one character and always answers at least one
piece. `cutAt?` cuts once, at the first occurrence of a symbol that may be several
characters long. In both cases the text is recovered by putting the separator back
between the parts.
-/
namespace DocumentGateway.Text

/-- All parts of a text between occurrences of the separator. A text without the
separator is its own single piece, and the empty text has one empty piece. -/
def pieces (separator : Char) : List Char → List (List Char)
  | [] => [[]]
  | c :: rest =>
    if c = separator then [] :: pieces separator rest
    else match pieces separator rest with
      | [] => [[c]]
      | first :: others => (c :: first) :: others

/-- The pieces of a string, as strings. -/
def split (separator : Char) (text : String) : List String :=
  (pieces separator text.toList).map String.ofList

/-- The parts before and after the first occurrence of the symbol. -/
def cutAt? {α : Type} [DecidableEq α] (symbol : List α) : List α → Option (List α × List α)
  | [] => if symbol.isEmpty then some ([], []) else none
  | c :: rest =>
    match symbol.isPrefixOf? (c :: rest) with
    | some after => some ([], after)
    | none => (cutAt? symbol rest).map fun (before, after) => (c :: before, after)

/-- The text without a byte order mark at its start. -/
def withoutByteOrderMark (text : List Char) : List Char :=
  if text.head? = some '\uFEFF' then text.drop 1 else text

/-- The strings put together with the separator between neighbours. -/
def join (separator : String) (parts : List String) : String :=
  String.intercalate separator parts

end DocumentGateway.Text

import DocumentGateway.Proofs.Text.Cut
import DocumentGateway.Search.Term
import Mathlib.Data.List.Infix

/-!
# Terms taken apart

Some symbols of operators contain others, and they can overlap in a term. What decides is said
here without a search: the parts of a term make up its text, no operator of higher rank occurs
anywhere in the text, be it in the field or in the raw value, and the own symbol of the operator
occurs no further in front. One way at most to take a text apart is left by this, and there is one
as soon as the text holds a character that an operator can be told by.
-/
namespace DocumentGateway.Search

/-! ## The order of operators -/

/-- The place of an operator in the order in which operators are looked for. -/
def Operator.rank (operator : Operator) : Nat :=
  precedence.idxOf operator

/-- Every operator is looked for. -/
theorem mem_precedence (operator : Operator) : operator ∈ precedence := by
  rcases operator with ⟨_ | _ | _ | _ | _⟩ | _ <;> decide

/-- The operators that stand before an operator in the order are those of lower rank. -/
theorem rank_lt_iff {operator other : Operator} {earlier later : List Operator}
    (split : precedence = earlier ++ operator :: later) :
    other.rank < operator.rank ↔ other ∈ earlier := by
  have distinct : precedence.Nodup := by decide
  rw [split] at distinct
  have absent : operator ∉ earlier := fun member =>
    (List.nodup_append.mp distinct).2.2 operator member operator List.mem_cons_self rfl
  have own : operator.rank = earlier.length := by
    rw [Operator.rank, split, List.idxOf_append_of_notMem absent, List.idxOf_cons_self, Nat.add_zero]
  rw [own, Operator.rank, split]
  by_cases member : other ∈ earlier
  · simp [List.idxOf_append_of_mem member, List.idxOf_lt_length_iff]
  · simp [List.idxOf_append_of_notMem member, member]

/-! ## Texts and their parts -/

namespace Term

/-- The parts of a term put together. -/
def text (term : Term) : List Char :=
  term.field ++ term.operator.symbol ++ term.raw

/-- A term is a text taken apart: its parts make up the text, no operator that is looked for
earlier occurs anywhere in the text, and the operator of the term does not occur further in
front. -/
structure TakesApart (term : Term) (text : List Char) : Prop where
  whole : text = term.text
  highest : ∀ other : Operator, other.rank < term.operator.rank → ¬ other.symbol <:+: text
  first : ∀ before after, text = before ++ term.operator.symbol ++ after →
    term.field.length ≤ before.length

variable {text : List Char} {term : Term} {operator : Operator}

/-- A text is cut at an operator into the parts around the first occurrence of its symbol. -/
theorem cut?_eq_some_iff :
    cut? operator text = some term ↔
      term.operator = operator ∧ text = term.text ∧
        ∀ before after, text = before ++ operator.symbol ++ after →
          term.field.length ≤ before.length := by
  rw [cut?, Option.map_eq_some_iff]
  constructor
  · rintro ⟨⟨field, raw⟩, cut, rfl⟩
    obtain ⟨whole, first⟩ := Text.cutAt?_eq_some_iff.mp cut
    exact ⟨rfl, whole, first⟩
  · rintro ⟨rfl, whole, first⟩
    exact ⟨(term.field, term.raw), Text.cutAt?_eq_some_iff.mpr ⟨whole, first⟩, rfl⟩

/-- A text cannot be cut at an operator exactly if its symbol does not occur in it. -/
theorem cut?_eq_none_iff : cut? operator text = none ↔ ¬ operator.symbol <:+: text := by
  rw [cut?, Option.map_eq_none_iff, Text.cutAt?_eq_none_iff]

/-- A text is read as the term that takes it apart. -/
theorem parse?_eq_some_iff : parse? text = some term ↔ term.TakesApart text := by
  rw [parse?, List.findSome?_eq_some_iff]
  constructor
  · rintro ⟨earlier, operator, later, split, cut, uncut⟩
    obtain ⟨rfl, whole, first⟩ := cut?_eq_some_iff.mp cut
    refine ⟨whole, fun other higher => ?_, first⟩
    exact cut?_eq_none_iff.mp (uncut other ((rank_lt_iff split).mp higher))
  · rintro ⟨whole, highest, first⟩
    obtain ⟨earlier, later, split⟩ := List.append_of_mem (mem_precedence term.operator)
    refine ⟨earlier, term.operator, later, split, cut?_eq_some_iff.mpr ⟨rfl, whole, first⟩, ?_⟩
    intro other before
    exact cut?_eq_none_iff.mpr (highest other ((rank_lt_iff split).mpr before))

/-- A text is no term exactly if no symbol of an operator occurs in it. -/
theorem parse?_eq_none_iff_symbols :
    parse? text = none ↔ ∀ operator : Operator, ¬ operator.symbol <:+: text := by
  rw [parse?, List.findSome?_eq_none_iff]
  exact ⟨fun uncut operator => cut?_eq_none_iff.mp (uncut operator (mem_precedence operator)),
    fun absent operator _ => cut?_eq_none_iff.mpr (absent operator)⟩

/-- A text is no term exactly if it holds none of the characters that are symbols by themselves.
Each of the longer symbols holds one of them. -/
theorem parse?_eq_none_iff : parse? text = none ↔ ':' ∉ text ∧ '<' ∉ text ∧ '>' ∉ text := by
  rw [parse?_eq_none_iff_symbols]
  constructor
  · intro absent
    have character : ∀ (c : Char) (operator : Operator), operator.symbol = [c] → c ∉ text := by
      intro c operator symbol member
      have occurs : [c] <:+: text := (List.singleton_infix_iff c text).mpr member
      exact absent operator (symbol ▸ occurs)
    exact ⟨character ':' .equal rfl, character '<' (.compare .lt) rfl,
      character '>' (.compare .gt) rfl⟩
  · rintro ⟨colon, less, greater⟩ operator occurs
    have marked : ':' ∈ operator.symbol ∨ '<' ∈ operator.symbol ∨ '>' ∈ operator.symbol := by
      rcases operator with ⟨_ | _ | _ | _ | _⟩ | _ <;> decide
    rcases marked with inSymbol | inSymbol | inSymbol
    · exact colon (occurs.subset inSymbol)
    · exact less (occurs.subset inSymbol)
    · exact greater (occurs.subset inSymbol)

end Term

/-- Every text with one of the characters `:`, `<` and `>` in it is taken apart, in the one way in
which its parts make it up, no operator of higher rank occurs in it and the operator occurs no
further in front. A text without them is no term. -/
theorem term_taken_apart (text : List Char) :
    (Term.parse? text = none ↔ ':' ∉ text ∧ '<' ∉ text ∧ '>' ∉ text) ∧
      ∀ term, Term.parse? text = some term ↔ term.TakesApart text :=
  ⟨Term.parse?_eq_none_iff, fun _ => Term.parse?_eq_some_iff⟩

/-- The longer symbol counts even behind a shorter one that it contains. -/
example : Term.parse? "a>b:c>=1>=2".toList =
    some ⟨"a>b:c".toList, .compare .gte, "1>=2".toList⟩ := by
  decide

end DocumentGateway.Search

import DocumentGateway.Proofs.Json.Regular
import DocumentGateway.Proofs.Json.StringText

/-!
# Values as text and back

The text of a regular value is read up to its end, whatever follows it in an array or an
object, and gives the value in which every number is read from its own text. The number
of tokens that the reader may take is spent by the text itself: an item or a member costs
at most two steps for each of its characters.
-/
namespace DocumentGateway.Json

open Decimal (isDigit)

/-- The text of a value is read up to its end. -/
def Reads (levels : Nat) (value : Json) : Prop :=
  ∀ fuel rest, 2 * (print value).length ≤ fuel + 1 → Ended rest →
    readValue fuel levels (print value ++ rest) = value.reread?.map fun read => (read, rest)

/-- Nothing is skipped in front of a character that is no gap. -/
theorem skipGap_cons {c : Char} (token : isGap c = false) (rest : List Char) :
    skipGap (c :: rest) = c :: rest := by
  simp [skipGap, token]

/-- A token that begins with a sign or a digit is a number. -/
theorem readValue_number {first : Char} (numeric : first = '-' ∨ isDigit first = true)
    (fuel levels : Nat) (rest : List Char) :
    readValue (fuel + 1) levels (first :: rest) =
      (readNumber (first :: rest)).map fun (n, rest) => (.number n, rest) := by
  have different : ∀ other, ¬ (other = '-' ∨ isDigit other = true) → first ≠ other := by
    rintro other notNumeric rfl
    exact notNumeric numeric
  have token : isGap first = false := by
    simp only [isGap, Bool.or_eq_false_iff, decide_eq_false_iff_not]
    exact ⟨⟨⟨different ' ' (by decide), different '\t' (by decide)⟩, different '\n' (by decide)⟩,
      different '\r' (by decide)⟩
  rw [readValue, skipGap_cons token]
  split
  · rename_i same
    exact absurd (List.cons.inj same).1 (different 'n' (by decide))
  · rename_i same
    exact absurd (List.cons.inj same).1 (different 't' (by decide))
  · rename_i same
    exact absurd (List.cons.inj same).1 (different 'f' (by decide))
  · rename_i same
    exact absurd (List.cons.inj same).1 (different '"' (by decide))
  · rename_i same
    exact absurd (List.cons.inj same).1 (different '[' (by decide))
  · rename_i same
    exact absurd (List.cons.inj same).1 (different '{' (by decide))
  · rfl

/-- The text of a value begins with a token that closes nothing. -/
theorem print_begins {levels : Nat} {value : Json} (regular : value.Regular levels) :
    ∃ first rest, print value = first :: rest ∧ isGap first = false ∧ first ≠ ']' ∧ first ≠ '}' := by
  cases regular with
  | null levels => exact ⟨'n', _, rfl, by decide⟩
  | bool levels value =>
    cases value with
    | true => exact ⟨'t', _, rfl, by decide⟩
    | false => exact ⟨'f', _, rfl, by decide⟩
  | number levels valid =>
    obtain ⟨first, rest, printed, numeric⟩ := printNumber_begins valid
    refine ⟨first, rest, by rw [print, printed], ?_, ?_, ?_⟩
    · rcases numeric with rfl | digit
      · decide
      · simp only [isGap, Bool.or_eq_false_iff, decide_eq_false_iff_not]
        exact ⟨⟨⟨isDigit_ne digit (by decide), isDigit_ne digit (by decide)⟩,
          isDigit_ne digit (by decide)⟩, isDigit_ne digit (by decide)⟩
    · rcases numeric with rfl | digit
      · decide
      · exact isDigit_ne digit (by decide)
    · rcases numeric with rfl | digit
      · decide
      · exact isDigit_ne digit (by decide)
  | string levels value => exact ⟨'"', _, rfl, by decide⟩
  | array each => exact ⟨'[', _, rfl, by decide⟩
  | object distinct each => exact ⟨'{', _, rfl, by decide⟩

/-- A number ends in front of what separates or closes. -/
theorem ended_cons {c : Char} (closing : c = ',' ∨ c = ']' ∨ c = '}') (rest : List Char) :
    Ended (c :: rest) := by
  intro first same
  obtain rfl : c = first := Option.some.inj same
  rcases closing with rfl | rfl | rfl <;> decide

/-! ## Items and members -/

/-- The items of an array are read up to its closing bracket. -/
theorem readItems_print {levels : Nat} {items : List Json} (nonempty : items ≠ [])
    (each : ∀ item ∈ items, Reads levels item) :
    ∀ fuel rest, 2 * (printItems items).length < fuel →
      readItems fuel levels (printItems items ++ ']' :: rest) =
        (rereadItems? items).map fun read => (read, rest) := by
  induction items with
  | nil => exact absurd rfl nonempty
  | cons item others inductionHypothesis =>
    intro fuel rest enough
    obtain ⟨fuel, rfl⟩ := Nat.exists_eq_succ_of_ne_zero (Nat.ne_zero_of_lt enough)
    obtain ⟨itemReads, othersRead⟩ := List.forall_mem_cons.mp each
    cases others with
    | nil =>
      rw [printItems] at enough ⊢
      rw [readItems, itemReads fuel _ (by omega) (ended_cons (by simp) rest), rereadItems?]
      cases reread? item with
      | none => rfl
      | some read => rfl
    | cons next others =>
      rw [printItems, List.length_append, List.length_cons] at enough
      rw [printItems, List.append_assoc, List.cons_append, readItems,
        itemReads fuel _ (by omega) (ended_cons (by simp) _), rereadItems?]
      cases reread? item with
      | none => rfl
      | some read =>
        have following := inductionHypothesis (by simp) othersRead fuel rest (by omega)
        simp only [Option.map_some, skipGap_cons (show isGap ',' = false by decide), following]
        cases rereadItems? (next :: others) <;> rfl

/-- A member is read with its key, and what follows it decides whether more are read. -/
theorem readMembers_member {levels : Nat} (key : String) {value : Json}
    (reads : Reads levels value) {fuel : Nat} (enough : 2 * (print value).length ≤ fuel + 1)
    {rest : List Char} (ended : Ended rest) :
    readMembers (fuel + 1) levels (printText key ++ ':' :: (print value ++ rest)) =
      value.reread?.bind fun read =>
        match skipGap rest with
        | ',' :: rest =>
          (readMembers fuel levels rest).map fun (members, rest) => ((key, read) :: members, rest)
        | '}' :: rest => some ([(key, read)], rest)
        | _ => none := by
  obtain ⟨quoted, printed, keyRead⟩ := readText_printText key (':' :: (print value ++ rest))
  rw [printed, readMembers, skipGap_cons (by decide)]
  simp only [keyRead, skipGap_cons (show isGap ':' = false by decide), reads fuel rest enough ended]
  cases reread? value <;> rfl

/-- The members of an object are read up to its closing brace. -/
theorem readMembers_print {levels : Nat} {members : Document} (nonempty : members ≠ [])
    (each : ∀ member ∈ members, Reads levels member.2) :
    ∀ fuel rest, 2 * (printMembers members).length < fuel →
      readMembers fuel levels (printMembers members ++ '}' :: rest) =
        (rereadMembers? members).map fun read => (read, rest) := by
  induction members with
  | nil => exact absurd rfl nonempty
  | cons member others inductionHypothesis =>
    intro fuel rest enough
    obtain ⟨fuel, rfl⟩ := Nat.exists_eq_succ_of_ne_zero (Nat.ne_zero_of_lt enough)
    obtain ⟨key, value⟩ := member
    obtain ⟨valueReads, othersRead⟩ := List.forall_mem_cons.mp each
    cases others with
    | nil =>
      rw [printMembers, List.length_append, List.length_cons] at enough
      have fits : 2 * (print value).length ≤ fuel + 1 := by omega
      rw [printMembers, List.append_assoc, List.cons_append,
        readMembers_member key valueReads fits (ended_cons (by simp) rest),
        skipGap_cons (by decide), rereadMembers?]
      cases reread? value <;> rfl
    | cons next others =>
      rw [printMembers, List.length_append, List.length_append, List.length_cons,
        List.length_cons] at enough
      have fits : 2 * (print value).length ≤ fuel + 1 := by omega
      have following := inductionHypothesis (by simp) othersRead fuel rest (by omega)
      rw [printMembers, List.append_assoc, List.append_assoc, List.cons_append, List.cons_append,
        readMembers_member key valueReads fits (ended_cons (by simp) _),
        skipGap_cons (by decide), rereadMembers?]
      cases reread? value with
      | none => rfl
      | some read =>
        simp only [Option.bind_some, following]
        cases rereadMembers? (next :: others) <;> rfl

/-! ## Values -/

/-- The text of the items of an array begins with a token that closes nothing. -/
theorem printItems_begins {levels : Nat} {items : List Json} (nonempty : items ≠ [])
    (each : ∀ item ∈ items, Regular levels item) :
    ∃ first rest, printItems items = first :: rest ∧ isGap first = false ∧ first ≠ ']' := by
  obtain ⟨item, others, rfl⟩ := List.exists_cons_of_ne_nil nonempty
  obtain ⟨first, rest, printed, token, notClosing, -⟩ := print_begins (each item (by simp))
  cases others with
  | nil => exact ⟨first, rest, by rw [printItems, printed], token, notClosing⟩
  | cons next others =>
    exact ⟨first, _, by rw [printItems, printed, List.cons_append], token, notClosing⟩

/-- The text of the members of an object begins with a quote. -/
theorem printMembers_begins {members : Document} (nonempty : members ≠ []) :
    ∃ rest, printMembers members = '"' :: rest := by
  obtain ⟨⟨key, value⟩, others, rfl⟩ := List.exists_cons_of_ne_nil nonempty
  cases others with
  | nil => exact ⟨_, by rw [printMembers, printText]; rfl⟩
  | cons next others => exact ⟨_, by rw [printMembers, printText]; rfl⟩

/-- There is a step to spend on the first token of a value. -/
theorem reads_of_step {levels : Nat} {value : Json} (regular : value.Regular levels)
    (step : ∀ fuel rest, 2 * (print value).length ≤ fuel + 2 → Ended rest →
      readValue (fuel + 1) levels (print value ++ rest) =
        value.reread?.map fun read => (read, rest)) : Reads levels value := by
  intro fuel rest enough ended
  obtain ⟨first, others, printed, -⟩ := print_begins regular
  have started : fuel ≠ 0 := by
    rw [printed, List.length_cons] at enough
    omega
  obtain ⟨fuel, rfl⟩ := Nat.exists_eq_succ_of_ne_zero started
  exact step fuel rest enough ended

/-- An array is read if its items are. -/
theorem reads_array {levels : Nat} {items : List Json}
    (each : ∀ item ∈ items, Regular levels item) (reads : ∀ item ∈ items, Reads levels item)
    {fuel : Nat} (enough : 2 * (print (.array items)).length ≤ fuel + 2) (rest : List Char) :
    readValue (fuel + 1) (levels + 1) (print (.array items) ++ rest) =
      (Json.array items).reread?.map fun read => (read, rest) := by
  rw [print, List.length_append, List.length_cons, List.length_singleton] at enough
  rw [print, List.append_assoc, List.cons_append, List.singleton_append, readValue,
    skipGap_cons (by decide)]
  by_cases nonempty : items = []
  · subst nonempty
    simp [printItems, skipGap_cons (show isGap ']' = false by decide), reread?, rereadItems?]
  · obtain ⟨first, others, printed, token, notClosing⟩ := printItems_begins nonempty each
    have read := readItems_print nonempty reads fuel rest (by omega)
    rw [printed, List.cons_append] at read ⊢
    simp only [skipGap_cons token]
    split
    · rename_i same
      exact absurd (List.cons.inj same).1 notClosing
    · rw [read, reread?, Option.map_map, Option.map_map]
      rfl

/-- An object with distinct keys is read if its values are. -/
theorem reads_object {levels : Nat} {members : Document}
    (distinct : (Keyed.keys members).Nodup)
    (reads : ∀ member ∈ members, Reads levels member.2)
    {fuel : Nat} (enough : 2 * (print (.object members)).length ≤ fuel + 2) (rest : List Char) :
    readValue (fuel + 1) (levels + 1) (print (.object members) ++ rest) =
      (Json.object members).reread?.map fun read => (read, rest) := by
  rw [print, List.length_append, List.length_cons, List.length_singleton] at enough
  rw [print, List.append_assoc, List.cons_append, List.singleton_append, readValue,
    skipGap_cons (by decide)]
  by_cases nonempty : members = []
  · subst nonempty
    simp [printMembers, skipGap_cons (show isGap '}' = false by decide), reread?, rereadMembers?]
  · obtain ⟨others, printed⟩ := printMembers_begins nonempty
    have read := readMembers_print nonempty reads fuel rest (by omega)
    rw [printed, List.cons_append] at read ⊢
    simp only [skipGap_cons (show isGap '"' = false by decide)]
    split
    · rename_i same
      exact absurd (List.cons.inj same).1 (by decide)
    · rw [read, reread?]
      cases reread : rereadMembers? members with
      | none => rfl
      | some kept =>
        have keptDistinct : (Keyed.keys kept).Nodup := by
          rw [keys_rereadMembers? reread]
          exact distinct
        simp [Keyed.ofList_distinct keptDistinct]

/-- The text of a regular value is read up to its end. -/
theorem Regular.reads {levels : Nat} {value : Json} (regular : value.Regular levels) :
    Reads levels value := by
  induction regular with
  | null levels => exact reads_of_step (.null levels) fun fuel rest _ _ => rfl
  | bool levels value =>
    refine reads_of_step (.bool levels value) fun fuel rest _ _ => ?_
    cases value <;> rfl
  | @number levels n valid =>
    refine reads_of_step (.number levels valid) fun fuel rest _ ended => ?_
    obtain ⟨first, others, printed, numeric⟩ := printNumber_begins valid
    have read := readNumber_printNumber valid ended
    rw [printed, List.cons_append] at read
    rw [print, printed, List.cons_append, readValue_number numeric, read, reread?, Option.map_map,
      Option.map_map]
    rfl
  | string levels value =>
    refine reads_of_step (.string levels value) fun fuel rest _ _ => ?_
    obtain ⟨quoted, printed, read⟩ := readText_printText value rest
    rw [print, printed, readValue, skipGap_cons (by decide)]
    simp only [read]
    rfl
  | array each inductionHypothesis =>
    exact reads_of_step (.array each) fun fuel rest enough _ =>
      reads_array each inductionHypothesis enough rest
  | object distinct each inductionHypothesis =>
    exact reads_of_step (.object distinct each) fun fuel rest enough _ =>
      reads_object distinct inductionHypothesis enough rest

/-- Reading the text of a regular value, nested no deeper than the reader goes, reads each
of its numbers from its text and changes nothing else. -/
theorem ofText?_toText {value : Json} (regular : value.Regular maxDepth) :
    ofText? value.toText = value.reread? := by
  have read := regular.reads (2 * (print value).length + 2) [] (by omega) ended_nil
  rw [List.append_nil] at read
  rw [toText, ofText?, String.toList_ofList, parse?, read]
  cases reread? value with
  | none => rfl
  | some read => simp [skipGap]

end DocumentGateway.Json

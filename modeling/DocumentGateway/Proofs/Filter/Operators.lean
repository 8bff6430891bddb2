import DocumentGateway.Proofs.Except
import DocumentGateway.Proofs.Filter.Grammar
import DocumentGateway.Proofs.Filter.Matching

/-!
# Acceptance and meaning of operators

The reader of an object of operators against the rules for one. It accepts exactly what
the rules derive, and its conditions together mean what the operators do. Every operator
decides its own rule; the object is decided by induction on its members and on the
objects of operators that it negates.
-/
namespace DocumentGateway

/-! ## Operands -/

/-- Equality as it is computed is equality as it is meant, with an item of an array in place of
the array. -/
theorem equalsOrContains_eq (target : Option Json) :
    equalsOrContains target = fun operand => FilterMeaning.equals operand target := by
  funext operand
  cases target with
  | none => cases operand <;> rfl
  | some value => exact candidates_any (fun value => value.same operand) (some value)

/-- Comparison by order as it is computed is comparison as it is meant. -/
theorem anyOrdered_eq (relation : Relation) (bound : Json) (target : Option Json) :
    anyOrdered relation target bound = FilterMeaning.compares relation.accepts bound target :=
  candidates_any (fun value => (value.compareSameKind bound).any relation.accepts) target

/-- Options are read exactly if all letters are known, and each letter turns its flag on. -/
theorem readOptions_decides (path : String) (letters : List Char) (flags : Pattern.Flags) :
    Decides (readOptions path letters flags) (∀ letter ∈ letters, letter ∈ ['i', 'm', 's', 'x'])
      (· = { flags with
        anyCase := flags.anyCase || letters.contains 'i'
        lines := flags.lines || letters.contains 'm'
        dotAll := flags.dotAll || letters.contains 's'
        spaced := flags.spaced || letters.contains 'x' }) := by
  fun_induction readOptions path letters flags with
  | case1 flags => exact .accepted nofun (by simp)
  | case2 flags rest inductionHypothesis =>
    exact inductionHypothesis.imp (by simp) (by simp)
  | case3 flags rest inductionHypothesis =>
    exact inductionHypothesis.imp (by simp) (by simp)
  | case4 flags rest inductionHypothesis =>
    exact inductionHypothesis.imp (by simp) (by simp)
  | case5 flags rest inductionHypothesis =>
    exact inductionHypothesis.imp (by simp) (by simp)
  | case6 letter rest flags notI notM notS notX =>
    refine .refused fun known => ?_
    have letterKnown := known letter (List.mem_cons_self ..)
    simp_all

/-- A pattern is read exactly if the rule for it applies, and it is the one compiled. -/
theorem readPattern_decides (path : String) (options : Option String) (operand : Json) :
    Decides (readPattern path options operand)
      (∃ text, operand = .string text ∧
        (∀ letter ∈ optionLetters options, letter ∈ ['i', 'm', 's', 'x']) ∧
        (compiled? options text).isSome = true)
      (fun pattern => ∀ target,
        (Predicate.fits pattern).matches target = FilterMeaning.fits options operand target) := by
  cases operand with
  | string text =>
    have lettersRead : Decides (readOptions path (optionLetters options) {}) _
        (· = flagsOf (optionLetters options)) :=
      (readOptions_decides path (optionLetters options) {}).imp Iff.rfl (by simp [flagsOf])
    have derived : ((∀ letter ∈ optionLetters options, letter ∈ ['i', 'm', 's', 'x']) ∧
          (compiled? options text).isSome = true) ↔
        ∃ own, Json.string text = .string own ∧
          (∀ letter ∈ optionLetters options, letter ∈ ['i', 'm', 's', 'x']) ∧
          (compiled? options own).isSome = true := by simp
    refine (lettersRead.bind ?_).imp derived fun _ => id
    rintro flags rfl
    rw [show Pattern.read? (flagsOf (optionLetters options)) text.toList = compiled? options text
      from rfl]
    cases found : compiled? options text with
    | none => exact .refused (by simp)
    | some pattern =>
      refine .accepted rfl fun target => ?_
      rw [Predicate.matches, candidates_any, FilterMeaning.fits, found, Option.any_some]
  | _ => exact .refused (by simp)

/-- The items of an operand are read exactly if it is an array. -/
theorem operandItems_decides (operator path : String) (operand : Json) :
    Decides (operandItems operator path operand) (∃ items, operand = .array items)
      (operand = .array ·) := by
  cases operand with
  | array items => exact .accepted ⟨items, rfl⟩ rfl
  | _ => exact .refused nofun

/-! ## Objects of operators -/

/-- An object is plain exactly if no key in it is marked as an operator. The empty object is. -/
theorem shape_plain_iff (members : Document) :
    shape members = .plain ↔ ∀ member ∈ members, isOperatorKey member.1 = false := by
  have checked : (members.all fun member => !isOperatorKey member.1) = true ↔
      ∀ member ∈ members, isOperatorKey member.1 = false := by simp
  rw [← checked]
  unfold shape
  split
  case isTrue plain => exact ⟨fun _ => plain, fun _ => rfl⟩
  case isFalse notPlain => split <;> exact ⟨nofun, fun plain => absurd plain notPlain⟩

/-- An object is one of operators exactly if it has a member and all of its keys are marked. -/
theorem shape_operators_iff (members : Document) :
    shape members = .operators ↔
      members ≠ [] ∧ ∀ member ∈ members, isOperatorKey member.1 = true := by
  have checked : (members.all fun member => isOperatorKey member.1) = true ↔
      ∀ member ∈ members, isOperatorKey member.1 = true := List.all_eq_true
  rw [← checked]
  unfold shape
  cases members with
  | nil => simp
  | cons member rest =>
    split
    case isTrue plain =>
      have unmarked : isOperatorKey member.1 = false := by
        simpa using List.all_eq_true.mp plain member (List.mem_cons_self ..)
      simp [unmarked]
    case isFalse notPlain =>
      split
      case isTrue marked => exact ⟨fun _ => ⟨nofun, marked⟩, fun _ => rfl⟩
      case isFalse notMarked => exact ⟨nofun, fun both => absurd both.2 notMarked⟩

/-- Which operators and operands the rules derive. -/
theorem operatorMember_iff (depth : Nat) (options : Option String) (operator : String)
    (operand : Json) :
    OperatorMember depth options operator operand ↔
      operator ∈ ["$eq", "$ne", "$gt", "$gte", "$lt", "$lte", "$exists"] ∨
        (operator ∈ ["$in", "$nin"] ∧ ∃ items, operand = .array items) ∨
        (operator = "$regex" ∧ ∃ text, operand = .string text ∧
          (∀ letter ∈ optionLetters options, letter ∈ ['i', 'm', 's', 'x']) ∧
          (compiled? options text).isSome = true) ∨
        operator = "$options" ∨
        (operator = "$not" ∧ ∃ members, operand = .object members ∧
          OperatorObject (depth + 1) members) := by
  constructor
  · rintro (compares | selects | ⟨named, known, compiles⟩ | named | ⟨named, proper⟩)
    · exact .inl compares
    · exact .inr (.inl ⟨selects, _, rfl⟩)
    · exact .inr (.inr (.inl ⟨named, _, rfl, known, compiles⟩))
    · exact .inr (.inr (.inr (.inl named)))
    · exact .inr (.inr (.inr (.inr ⟨named, _, rfl, proper⟩)))
  · rintro (compares | ⟨selects, _, rfl⟩ | ⟨named, _, rfl, known, compiles⟩ | named |
      ⟨named, _, rfl, proper⟩)
    · exact .comparison compares
    · exact .membership selects
    · exact .pattern named known compiles
    · exact .options named
    · exact .negation named proper

/-- Every operator of the rules is marked as one. -/
theorem OperatorMember.marked {depth : Nat} {options : Option String} {operator : String}
    {operand : Json} (proper : OperatorMember depth options operator operand) :
    isOperatorKey operator = true := by
  cases proper with
  | comparison compares => revert operator; decide
  | membership selects => revert operator; decide
  | pattern named | options named | negation named => rw [named]; decide

/-- What the grammar takes for an object of operators has the shape of one. -/
theorem OperatorObject.shape_eq {depth : Nat} {members : Document}
    (proper : OperatorObject depth members) : shape members = .operators := by
  cases proper with
  | members shallow nonempty options proper =>
    exact (shape_operators_iff members).mpr
      ⟨nonempty, fun member present => (proper member present).marked⟩

/-- The check of an object as a whole decides its depth and its options. -/
theorem checkOperators_decides (depth : Nat) (path : String) (members : Document) :
    Decides (checkOperators depth path members)
      (depth ≤ 32 ∧ ∀ value, Keyed.get? "$options" members = some value →
        (∃ letters, value = .string letters) ∧ Keyed.contains "$regex" members = true)
      (· = optionsOf members) := by
  unfold checkOperators
  split
  case isTrue deep => exact .refused fun both => absurd both.1 (Nat.not_le.mpr deep)
  case isFalse notDeep =>
    have shallow : depth ≤ 32 := Nat.not_lt.mp notDeep
    unfold optionsOf
    cases found : Keyed.get? "$options" members with
    | none => exact .accepted ⟨shallow, nofun⟩ rfl
    | some value =>
      cases value with
      | string letters =>
        cases beside : Keyed.contains "$regex" members with
        | true => exact .accepted ⟨shallow, by simp⟩ rfl
        | false => exact .refused (by simp)
      | _ => exact .refused (by simp)

/-- A reader of one operator decides it, and its condition means what the operator does. -/
def DecidesOperator (depth : Nat) (options : Option String) (operator : String) (operand : Json)
    (holds : Option Json → Bool) (result : Except FilterError (Option Predicate)) : Prop :=
  Decides result (OperatorMember depth options operator operand)
    fun predicate => ∀ target, predicate.toList.all (·.matches target) = holds target

/-- A reader of operators decides each of them, and its conditions together mean what the
operators do. -/
def DecidesOperators (depth : Nat) (options : Option String) (members : Document)
    (result : Except FilterError (List Predicate)) : Prop :=
  Decides result (∀ member ∈ members, OperatorMember depth options member.1 member.2)
    fun predicates => ∀ target, predicates.all (·.matches target) =
      FilterMeaning.operatorsHold options members target

/-- One more operator in front is decided with the rest. -/
theorem DecidesOperators.cons {depth : Nat} {options : Option String} {operator : String}
    {operand : Json} {rest : Document} {later : Except FilterError (List Predicate)}
    {head : Except FilterError (Option Predicate)} {holds : Option Json → Bool}
    (decidesRest : DecidesOperators depth options rest later)
    (decidesHead : DecidesOperator depth options operator operand holds head)
    (means : ∀ target, FilterMeaning.operatorsHold options ((operator, operand) :: rest) target =
      (holds target && FilterMeaning.operatorsHold options rest target)) :
    DecidesOperators depth options ((operator, operand) :: rest)
      (head >>= fun predicate => later >>= fun others => .ok (predicate.toList ++ others)) := by
  have readBoth : ∀ predicate : Option Predicate,
      (∀ target, predicate.toList.all (·.matches target) = holds target) →
      Decides (later.map (predicate.toList ++ ·))
        (∀ member ∈ rest, OperatorMember depth options member.1 member.2)
        fun predicates => ∀ target, predicates.all (·.matches target) =
          FilterMeaning.operatorsHold options ((operator, operand) :: rest) target := by
    intro predicate predicateMeans
    refine Decides.map decidesRest fun others othersMean target => ?_
    rw [List.all_append, predicateMeans, othersMean, means]
  exact (Decides.bind decidesHead readBoth).imp (by simp) fun _ => id

/-- One member that may not stand among the operators is enough to refuse all of them. -/
theorem DecidesOperators.refused {depth : Nat} {options : Option String} {operator : String}
    {operand : Json} {rest : Document} {reason : FilterError}
    (fails : ¬OperatorMember depth options operator operand) :
    DecidesOperators depth options ((operator, operand) :: rest) (.error reason) :=
  Decides.refused fun proper => fails (proper _ (List.mem_cons_self ..))

/-- An operator that takes any operand is read as its condition. -/
theorem comparison_decides {depth : Nat} {options : Option String} {operator : String}
    {operand : Json} (compares : operator ∈ ["$eq", "$ne", "$gt", "$gte", "$lt", "$lte", "$exists"])
    (predicate : Predicate) :
    DecidesOperator depth options operator operand predicate.matches (.ok (some predicate)) :=
  .accepted (.comparison compares) fun target => by simp

/-- The operators on lists read an array and refuse any other operand. -/
theorem membership_decides {depth : Nat} {options : Option String} {operator path : String}
    {operand : Json} (selects : operator ∈ ["$in", "$nin"])
    (predicate : List Json → Predicate) (holds : Option Json → Bool)
    (means : ∀ items, operand = .array items → ∀ target,
      (predicate items).matches target = holds target) :
    DecidesOperator depth options operator operand holds
      ((operandItems operator path operand).map fun items => some (predicate items)) := by
  refine (Decides.map (operandItems_decides operator path operand) ?_).imp ⟨?_, ?_⟩ fun _ => id
  · intro items isArray target
    simpa using means items isArray target
  · rintro ⟨items, rfl⟩
    exact .membership selects
  · have otherwise : operator ∉ ["$eq", "$ne", "$gt", "$gte", "$lt", "$lte", "$exists", "$regex",
        "$options", "$not"] := by
      revert operator
      decide
    rintro (compares | _ | named | named | named)
    · simp_all
    · exact ⟨_, rfl⟩
    all_goals simp_all

/-- A pattern is read exactly if the rule for it applies. -/
theorem pattern_decides {depth : Nat} {options : Option String} {path : String} {operand : Json} :
    DecidesOperator depth options "$regex" operand (FilterMeaning.fits options operand)
      ((readPattern path options operand).map fun pattern => some (.fits pattern)) := by
  refine (Decides.map (readPattern_decides path options operand) ?_).imp
    (by simp [operatorMember_iff]) fun _ => id
  intro pattern means target
  simpa using means target

/-- An object of operators is read exactly if the rules derive it. -/
theorem operatorObject_decides {depth : Nat} {path : String} {members : Document} {α : Type}
    (marked : shape members = .operators)
    (decides : DecidesOperators depth (optionsOf members) members
      (readOperators depth path (optionsOf members) members))
    (f : List Predicate → α) {meant : α → Prop}
    (means : ∀ predicates, (∀ target, predicates.all (·.matches target) =
      FilterMeaning.operatorsHold (optionsOf members) members target) → meant (f predicates)) :
    Decides (checkOperators depth path members >>= fun options =>
        readOperators depth path options members >>= fun predicates => .ok (f predicates))
      (OperatorObject depth members) meant := by
  have nonempty : members ≠ [] := ((shape_operators_iff members).mp marked).1
  have readNext : ∀ options, options = optionsOf members →
      Decides ((readOperators depth path options members).map f)
        (∀ member ∈ members, OperatorMember depth (optionsOf members) member.1 member.2) meant := by
    rintro options rfl
    exact Decides.map decides means
  refine ((checkOperators_decides depth path members).bind readNext).imp ⟨?_, ?_⟩ fun _ => id
  · rintro ⟨⟨shallow, optionsProper⟩, proper⟩
    exact .members shallow nonempty optionsProper proper
  · rintro ⟨shallow, -, optionsProper, proper⟩
    exact ⟨⟨shallow, optionsProper⟩, proper⟩

/-- A negated object of operators is read exactly if the rules derive it. -/
theorem negation_decides {depth : Nat} {options : Option String} {path : String}
    {members : Document} (marked : shape members = .operators)
    (decides : DecidesOperators (depth + 1) (optionsOf members) members
      (readOperators (depth + 1) path (optionsOf members) members)) :
    DecidesOperator depth options "$not" (.object members)
      (fun target => !FilterMeaning.operandHolds (.object members) target)
      (checkOperators (depth + 1) path members >>= fun options =>
        readOperators (depth + 1) path options members >>= fun predicates =>
          .ok (some (.negated (joinPredicates predicates)))) := by
  have derived : OperatorObject (depth + 1) members ↔
      OperatorMember depth options "$not" (.object members) := by simp [operatorMember_iff]
  refine (operatorObject_decides marked decides
    (fun predicates => some (Predicate.negated (joinPredicates predicates))) ?_).imp
      derived fun _ => id
  intro predicates means target
  simp [Predicate.matches, joinPredicates_matches, means, FilterMeaning.operandHolds]

/-- Nothing but an object of operators can be negated. -/
theorem not_negation {depth : Nat} {options : Option String} {operand : Json}
    (unmarked : ∀ members, operand = .object members → shape members ≠ .operators) :
    ¬OperatorMember depth options "$not" operand := by
  rw [operatorMember_iff]
  simp
  rintro members isObject proper
  exact unmarked members isObject proper.shape_eq

/-- The operators of an object are read exactly if the rules derive each of them. -/
theorem readOperators_decides (path : String) (depth : Nat) (options : Option String)
    (members : Document) :
    DecidesOperators depth options members (readOperators depth path options members) := by
  match members with
  | [] =>
    rw [DecidesOperators, readOperators]
    exact .accepted (by simp) fun _ => rfl
  | (operator, operand) :: rest =>
    have later := readOperators_decides path depth options rest
    rw [readOperators.eq_def]
    dsimp only
    split
    case h_1 =>
      exact later.cons (comparison_decides (by decide) (.equal operand)) fun target => by
        rw [FilterMeaning.operatorsHold, Predicate.matches, equalsOrContains_eq]
    case h_2 =>
      exact later.cons (comparison_decides (by decide) (.different operand)) fun target => by
        rw [FilterMeaning.operatorsHold, Predicate.matches, equalsOrContains_eq]
    case h_3 =>
      exact later.cons (comparison_decides (by decide) (.ordered .greater operand)) fun target => by
        rw [FilterMeaning.operatorsHold, Predicate.matches, anyOrdered_eq]; rfl
    case h_4 =>
      exact later.cons (comparison_decides (by decide) (.ordered .atLeast operand)) fun target => by
        rw [FilterMeaning.operatorsHold, Predicate.matches, anyOrdered_eq]; rfl
    case h_5 =>
      exact later.cons (comparison_decides (by decide) (.ordered .less operand)) fun target => by
        rw [FilterMeaning.operatorsHold, Predicate.matches, anyOrdered_eq]; rfl
    case h_6 =>
      exact later.cons (comparison_decides (by decide) (.ordered .atMost operand)) fun target => by
        rw [FilterMeaning.operatorsHold, Predicate.matches, anyOrdered_eq]; rfl
    case h_7 =>
      refine later.cons (membership_decides (by decide) .oneOf
        (FilterMeaning.equalsSome operand) fun items isArray target => ?_) fun target => ?_
      · rw [isArray, Predicate.matches, FilterMeaning.equalsSome, equalsOrContains_eq]
      · rw [FilterMeaning.operatorsHold]
    case h_8 =>
      refine later.cons (membership_decides (by decide) .noneOf
        (fun target => !FilterMeaning.equalsSome operand target)
        fun items isArray target => ?_) fun target => ?_
      · rw [isArray, Predicate.matches, FilterMeaning.equalsSome, equalsOrContains_eq]
      · rw [FilterMeaning.operatorsHold]
    case h_9 =>
      exact later.cons (comparison_decides (by decide) (.present (truth operand))) fun target => by
        rw [FilterMeaning.operatorsHold, Predicate.matches]
    case h_10 =>
      exact later.cons pattern_decides fun target => by rw [FilterMeaning.operatorsHold]
    case h_11 =>
      refine later.cons (.accepted (.options rfl) fun target => rfl) fun target => ?_
      rw [FilterMeaning.operatorsHold]
      · rfl
      all_goals decide
    case h_12 =>
      cases operand with
      | object members =>
        dsimp only
        have refused : shape members ≠ .operators → ∀ reason,
            DecidesOperators depth options (("$not", .object members) :: rest) (.error reason) :=
          fun otherShape reason => .refused (not_negation (by rintro members ⟨rfl⟩; exact otherShape))
        split
        case h_1 mixed => exact refused (by simp [mixed]) _
        case h_2 plain => exact refused (by simp [plain]) _
        case h_3 marked =>
          have inner := readOperators_decides path (depth + 1) (optionsOf members) members
          have both := later.cons (negation_decides marked inner) fun target => by
            rw [FilterMeaning.operatorsHold]
          simpa only [bind_assoc] using both
      | _ => exact DecidesOperators.refused (not_negation (by simp))
    case h_13 =>
      refine DecidesOperators.refused fun proper => ?_
      rw [operatorMember_iff] at proper
      simp_all
termination_by sizeOf members

end DocumentGateway

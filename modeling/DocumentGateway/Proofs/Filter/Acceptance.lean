import DocumentGateway.Proofs.Filter.Operators
import DocumentGateway.Store.DocumentStore

/-!
# Acceptance and meaning of filters

The reader of filters against the grammar of filter documents: it accepts exactly the
values that the rules derive, and the filter it answers matches exactly the documents
that satisfy the value. Each part of the reader decides one judgement of the grammar;
the parts are combined by mutual induction on the JSON value and the lists in it.
-/
namespace DocumentGateway

/-! ## Members of filter documents -/

/-- A field that is no operator is held to a value or to operators. -/
theorem filterMember_plain_iff {depth : Nat} {path : String} {value : Json}
    (plain : isOperatorKey path = false) :
    FilterMember depth path value ↔
      value.Unmarked ∨ ∃ members, value = .object members ∧ OperatorObject depth members := by
  constructor
  · rintro (⟨combines, -, -⟩ | ⟨-, unmarked⟩ | ⟨-, proper⟩)
    · have allMarked : ∀ operator ∈ ["$and", "$or", "$nor"], isOperatorKey operator = true := by
        decide
      rw [allMarked path combines] at plain
      cases plain
    · exact .inl unmarked
    · exact .inr ⟨_, rfl, proper⟩
  · rintro (unmarked | ⟨members, rfl, proper⟩)
    · exact .value plain unmarked
    · exact .operators plain proper

/-- A marked key combines the filter documents of an array. -/
theorem filterMember_marked_iff {depth : Nat} {operator : String} {value : Json}
    (marked : isOperatorKey operator = true) :
    FilterMember depth operator value ↔ operator ∈ ["$and", "$or", "$nor"] ∧
      ∃ items, value = .array items ∧ items ≠ [] ∧ ∀ item ∈ items, FilterDocument (depth + 1) item := by
  constructor
  · rintro (⟨combines, nonempty, proper⟩ | ⟨plain, -⟩ | ⟨plain, -⟩)
    · exact ⟨combines, _, rfl, nonempty, proper⟩
    · exact absurd (marked.symm.trans plain) (by decide)
    · exact absurd (marked.symm.trans plain) (by decide)
  · rintro ⟨combines, items, rfl, nonempty, proper⟩
    exact .clauses combines nonempty proper

/-- An object is taken for a value exactly if it is plain. -/
theorem unmarked_object_iff (members : Document) :
    (Json.object members).Unmarked ↔ shape members = .plain := by
  rw [shape_plain_iff]
  constructor
  · intro unmarked
    exact unmarked members rfl
  · rintro plain _ ⟨rfl⟩
    exact plain

/-- A condition by operators means what these mean. -/
theorem conditionHolds_operators {members : Document} (marked : shape members = .operators)
    (target : Option Json) :
    FilterMeaning.conditionHolds (.object members) target =
      FilterMeaning.operatorsHold (optionsOf members) members target := by
  obtain ⟨nonempty, allMarked⟩ := (shape_operators_iff members).mp marked
  obtain ⟨member, present⟩ := List.exists_mem_of_ne_nil members nonempty
  rw [FilterMeaning.conditionHolds, if_pos]
  exact List.any_eq_true.mpr ⟨member, present, allMarked member present⟩

/-- A condition by a value means to equal or contain it. -/
theorem conditionHolds_unmarked {value : Json} (unmarked : value.Unmarked)
    (target : Option Json) :
    FilterMeaning.conditionHolds value target = FilterMeaning.equals value target := by
  cases value with
  | object members =>
    rw [FilterMeaning.conditionHolds, if_neg]
    rw [Bool.not_eq_true, List.any_eq_false]
    intro member present
    rw [unmarked members rfl member present]
    decide
  | _ => rfl

/-- The condition on a field is read exactly if the rules derive the member. -/
theorem readCondition_decides {path : String} (plain : isOperatorKey path = false) (depth : Nat)
    (value : Json) :
    Decides (readCondition depth path value) (FilterMember depth path value)
      fun predicate => ∀ target,
        predicate.matches target = FilterMeaning.conditionHolds value target := by
  have equalDecides : value.Unmarked →
      Decides (.ok (.equal value) : Except FilterError Predicate) (FilterMember depth path value)
        fun predicate => ∀ target,
          predicate.matches target = FilterMeaning.conditionHolds value target := by
    intro unmarked
    refine .accepted (.value plain unmarked) fun target => ?_
    rw [conditionHolds_unmarked unmarked, Predicate.matches, equalsOrContains_eq]
  cases value with
  | object members =>
    have derived : FilterMember depth path (.object members) ↔
        shape members = .plain ∨ OperatorObject depth members := by
      simp [filterMember_plain_iff plain, unmarked_object_iff]
    rw [readCondition]
    split
    case h_1 mixed =>
      refine .refused fun proper => ?_
      rcases derived.mp proper with unmarked | operators
      · cases mixed.symm.trans unmarked
      · cases mixed.symm.trans operators.shape_eq
    case h_2 unmarked => exact equalDecides ((unmarked_object_iff members).mpr unmarked)
    case h_3 marked =>
      have inner := readOperators_decides path depth (optionsOf members) members
      refine (operatorObject_decides marked inner joinPredicates ?_).imp ?_ fun _ => id
      · intro predicates means target
        rw [joinPredicates_matches, means, conditionHolds_operators marked]
      · simp [derived, marked]
  | _ =>
    refine equalDecides fun members isObject => ?_
    cases isObject

/-! ## Filter documents -/

/-- A reader of members decides each of them, and its clauses together mean what the
members do. -/
def DecidesMembers (depth : Nat) (members : Document)
    (result : Except FilterError (List Filter)) : Prop :=
  Decides result (∀ member ∈ members, FilterMember depth member.1 member.2)
    fun clauses => ∀ document,
      clauses.all (·.matches document) = FilterMeaning.membersHold document members

/-- A reader of clauses decides whether the value is an array of some, and its filters
are satisfied like the clauses. -/
def DecidesClauses (depth : Nat) (value : Json) (result : Except FilterError (List Filter)) :
    Prop :=
  Decides result
    (∃ items, value = .array items ∧ items ≠ [] ∧ ∀ item ∈ items, FilterDocument (depth + 1) item)
    fun filters => ∀ document,
      filters.map (·.matches document) = FilterMeaning.clauseTruths document value

/-- One more member in front is decided with the rest. -/
theorem DecidesMembers.cons {depth : Nat} {key : String} {value : Json} {rest : Document}
    {later : Except FilterError (List Filter)} {clause : Except FilterError Filter}
    {holds : Document → Bool} (decidesRest : DecidesMembers depth rest later)
    (decidesClause : Decides clause (FilterMember depth key value)
      fun filter => ∀ document, filter.matches document = holds document)
    (means : ∀ document, FilterMeaning.membersHold document ((key, value) :: rest) =
      (holds document && FilterMeaning.membersHold document rest)) :
    DecidesMembers depth ((key, value) :: rest)
      (clause >>= fun filter => later >>= fun others => .ok (filter :: others)) := by
  have readBoth : ∀ filter : Filter, (∀ document, filter.matches document = holds document) →
      Decides (later.map (filter :: ·)) (∀ member ∈ rest, FilterMember depth member.1 member.2)
        fun clauses => ∀ document, clauses.all (·.matches document) =
          FilterMeaning.membersHold document ((key, value) :: rest) := by
    intro filter filterMeans
    refine Decides.map decidesRest fun others othersMean document => ?_
    rw [List.all_cons, filterMeans, othersMean, means]
  exact (Decides.bind decidesClause readBoth).imp (by simp) fun _ => id

/-- A key that combines clauses is read with them. -/
theorem DecidesClauses.combine {depth : Nat} {key : String} {value : Json}
    {result : Except FilterError (List Filter)} (decides : DecidesClauses depth value result)
    (combines : key ∈ ["$and", "$or", "$nor"]) (combine : List Filter → Filter)
    (joined : List Bool → Bool)
    (means : ∀ filters document,
      (combine filters).matches document = joined (filters.map (·.matches document))) :
    Decides (result.map combine) (FilterMember depth key value) fun filter => ∀ document,
      filter.matches document = joined (FilterMeaning.clauseTruths document value) := by
  have marked : isOperatorKey key = true := by revert key; decide
  refine (Decides.map decides fun filters filtersMean document => ?_).imp ?_ fun _ => id
  · rw [means, filtersMean]
  · simp only [filterMember_marked_iff marked, combines, true_and]

mutual

/-- A filter document is read exactly if the rules derive it. -/
theorem readFilter_decides (depth : Nat) : ∀ value : Json,
    Decides (readFilter depth value) (FilterDocument depth value)
      fun filter => ∀ document, filter.matches document = FilterMeaning.holds document value
  | .object members => by
    have decides := readMembers_decides depth members
    rw [readFilter]
    split
    case isTrue deep =>
      refine .refused ?_
      rintro ⟨shallow, -⟩
      exact absurd shallow (Nat.not_le.mpr deep)
    case isFalse notDeep =>
      have shallow : depth ≤ 32 := Nat.not_lt.mp notDeep
      refine (Decides.map decides fun clauses means document => ?_).imp ⟨?_, ?_⟩ fun _ => id
      · rw [joinFilters_matches, means, FilterMeaning.holds]
      · exact .object shallow
      · rintro ⟨-, proper⟩
        exact proper
  | .null | .bool _ | .number _ | .string _ | .array _ => by
    rw [readFilter]
    · split <;> exact .refused nofun
    · nofun

/-- The members of a filter document are read exactly if the rules derive each of them. -/
theorem readMembers_decides (depth : Nat) : ∀ members : List (String × Json),
    DecidesMembers depth members (readMembers depth members)
  | [] => by
    rw [DecidesMembers, readMembers]
    exact .accepted (by simp) fun document => rfl
  | (key, value) :: rest => by
    have clauses := readClauses_decides depth key value
    have later := readMembers_decides depth rest
    rw [readMembers.eq_def]
    dsimp only
    split
    case h_1 =>
      refine later.cons (clauses.combine (by decide) .every (List.all · id) ?_) fun document => ?_
      · intro filters document
        rw [Filter.matches, Filter.allMatch_eq, List.all_map]
        rfl
      · rw [FilterMeaning.membersHold]
    case h_2 =>
      refine later.cons (clauses.combine (by decide) .either (List.any · id) ?_) fun document => ?_
      · intro filters document
        rw [Filter.matches, Filter.anyMatches_eq, List.any_map]
        rfl
      · rw [FilterMeaning.membersHold]
    case h_3 =>
      refine later.cons (clauses.combine (by decide) .neither (!List.any · id) ?_) fun document => ?_
      · intro filters document
        rw [Filter.matches, Filter.anyMatches_eq, List.any_map]
        rfl
      · rw [FilterMeaning.membersHold]
    case h_4 notAnd notOr notNor =>
      split
      case isTrue marked =>
        refine .refused fun proper => ?_
        have combines : key ∈ ["$and", "$or", "$nor"] :=
          ((filterMember_marked_iff marked).mp (proper _ (List.mem_cons_self ..))).1
        have oneOfThree : key = "$and" ∨ key = "$or" ∨ key = "$nor" := by simpa using combines
        rcases oneOfThree with isAnd | isOr | isNor
        · exact notAnd isAnd
        · exact notOr isOr
        · exact notNor isNor
      case isFalse notMarked =>
        have plain : isOperatorKey key = false := Bool.eq_false_iff.mpr notMarked
        have clauseDecides : Decides ((readCondition depth key value).map (Filter.field key))
            (FilterMember depth key value) fun filter => ∀ document, filter.matches document =
              FilterMeaning.conditionHolds value (Json.resolve document key) := by
          refine Decides.map (readCondition_decides plain depth value) ?_
          intro predicate means document
          rw [Filter.matches, means]
        refine later.cons clauseDecides fun document => ?_
        rw [FilterMeaning.membersHold] <;> assumption

/-- The clauses of an array are read exactly if there are some and the rules derive each. -/
theorem readClauses_decides (depth : Nat) (operator : String) : ∀ value : Json,
    DecidesClauses depth value (readClauses depth operator value)
  | .array [] => by
    rw [DecidesClauses, readClauses]
    · exact .refused (by simp)
    · nofun
  | .array (item :: items) => by
    rw [DecidesClauses, readClauses]
    exact (readFilters_decides (depth + 1) (item :: items)).imp (by simp) fun _ => id
  | .null | .bool _ | .number _ | .string _ | .object _ => by
    rw [DecidesClauses, readClauses]
    · exact .refused nofun
    · nofun

/-- Filter documents in a row are read exactly if the rules derive each of them. -/
theorem readFilters_decides (depth : Nat) : ∀ items : List Json,
    Decides (readFilters depth items) (∀ item ∈ items, FilterDocument depth item)
      fun filters => ∀ document,
        filters.map (·.matches document) = FilterMeaning.truths document items
  | [] => by
    rw [readFilters]
    exact .accepted (by simp) fun document => rfl
  | item :: rest => by
    have here := readFilter_decides depth item
    have later := readFilters_decides depth rest
    have readBoth : ∀ filter : Filter,
        (∀ document, filter.matches document = FilterMeaning.holds document item) →
        Decides ((readFilters depth rest).map (filter :: ·)) (∀ item ∈ rest, FilterDocument depth item)
          fun filters => ∀ document, filters.map (·.matches document) =
            FilterMeaning.truths document (item :: rest) := by
      intro filter means
      refine Decides.map later fun others othersMean document => ?_
      rw [List.map_cons, means, othersMean, FilterMeaning.truths]
    rw [readFilters]
    exact (here.bind readBoth).imp (by simp) fun _ => id

end

/-- The store accepts exactly the filter documents of the grammar and refuses all other
values as invalid filters, and a filter it accepts matches exactly the documents that
satisfy the value. -/
theorem readStoreFilter_accepts_grammar (value : Json) :
    ((∃ filter, readStoreFilter value = .ok filter) ↔ FilterDocument 0 value) ∧
      ((∃ reason, readStoreFilter value = .error (.invalidFilter reason)) ↔
        ¬FilterDocument 0 value) ∧
      ∀ filter, readStoreFilter value = .ok filter →
        ∀ document, filter.matches document = FilterMeaning.holds document value := by
  have decides := readFilter_decides 0 value
  unfold readStoreFilter Filter.ofJson
  generalize readFilter 0 value = result at decides
  cases decides with
  | @accepted filter _ _ proper means =>
    refine ⟨⟨fun _ => proper, fun _ => ⟨filter, rfl⟩⟩, ⟨nofun, absurd proper⟩, ?_⟩
    rintro _ ⟨rfl⟩
    exact means
  | @refused error _ _ improper =>
    exact ⟨⟨nofun, fun proper => absurd proper improper⟩,
      ⟨fun _ => improper, fun _ => ⟨error.message, rfl⟩⟩, nofun⟩

end DocumentGateway

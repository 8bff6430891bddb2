import DocumentGateway.Proofs.Store.Backend

/-!
# When the two kinds of backend answer alike

A run is a list of calls made one after another. Two sound backends in which the same is
found answer a call alike and stay so, unless the call is an insertion of one of two
kinds. The first puts no entries into a namespace that holds nothing, and makes an empty
namespace in memory. The second repeats a key before any taken one, and is accepted in
memory with the last value of that key. The theorem at the end says that both backends
answer alike and keep the contract of a backend exactly as long as no such insertion is
made. The file backend keeps the contract in every run.
-/
namespace DocumentGateway.Backend

open FlatTable (NulFree)
open SortedMap (lookup)

/-- One call to a backend. A scan comes with its visitor, and with what the visitor
carries from value to value. -/
inductive Call (α ε σ : Type) where
  | get (space key : String)
  | insertNew (space : String) (entries : List (String × α))
  | replace (space key : String) (value : α)
  | delete (space key : String)
  | scan (space : String) (visit : σ → α → Except ε σ) (start : σ)
  | spaces
  | contains (space : String)
  | drop (space : String)

/-- What a call is answered with. -/
inductive Answer (α ε σ : Type) where
  | found (value : Option α)
  | stored
  | refused (error : StoreError)
  | decided (holds : Bool)
  | visited (outcome : Except ε σ)
  | named (spaces : List String)

variable {α ε σ : Type}

/-- The answer to a call, and the backend after it. -/
def perform (backend : Backend α) : Call α ε σ → Answer α ε σ × Backend α
  | .get space key => (.found (backend.get? space key), backend)
  | .insertNew space entries =>
    match backend.insertNew space entries with
    | .ok after => (.stored, after)
    | .error error => (.refused error, backend)
  | .replace space key value =>
    match backend.replace? space key value with
    | some after => (.decided true, after)
    | none => (.decided false, backend)
  | .delete space key => (.decided (backend.delete space key).1, (backend.delete space key).2)
  | .scan space visit start => (.visited (backend.scan space visit start), backend)
  | .spaces => (.named backend.spaces, backend)
  | .contains space => (.decided (backend.contains space), backend)
  | .drop space => (.decided (backend.drop space).1, (backend.drop space).2)

/-- The answers to a run of calls, in order. -/
def answers (backend : Backend α) : List (Call α ε σ) → List (Answer α ε σ)
  | [] => []
  | call :: rest => (backend.perform call).1 :: (backend.perform call).2.answers rest

/-- The backend after a run of calls. -/
def after (backend : Backend α) (calls : List (Call α ε σ)) : Backend α :=
  calls.foldl (fun backend call => (backend.perform call).2) backend

/-- A run of calls carries out its first call, and then the others. -/
@[simp] theorem after_cons (backend : Backend α) (call : Call α ε σ) (rest : List (Call α ε σ)) :
    backend.after (call :: rest) = (backend.perform call).2.after rest := rfl

/-- The namespace that a call is about, if there is one. -/
def Call.space? : Call α ε σ → Option String
  | .get space _ | .insertNew space _ | .replace space _ _ | .delete space _
  | .scan space _ _ | .contains space | .drop space => some space
  | .spaces => none

/-- The call names no namespace with a NUL in it. -/
def Call.Named (call : Call α ε σ) : Prop :=
  ∀ space, call.space? = some space → NulFree space

/-- The call only reads. -/
def Call.Reading : Call α ε σ → Prop
  | .get .. | .scan .. | .spaces | .contains _ => True
  | .insertNew .. | .replace .. | .delete .. | .drop _ => False

/-! ## The contract -/

/-- The contract of a backend at one call. An insertion stores every entry and changes
nothing else, or changes nothing. The namespaces that are listed, confirmed or dropped
are those that hold a key. -/
def MeetsContract (backend : Backend α) (call : Call α ε σ) : Prop :=
  match call with
  | .insertNew space entries =>
    let (answer, after) := backend.perform call
    match answer with
    | .stored =>
      (∀ entry ∈ entries, after.get? space entry.1 = some entry.2) ∧
        ∀ other key, NulFree other → ¬ (space = other ∧ key ∈ entries.map Prod.fst) →
          after.get? other key = backend.get? other key
    | _ => after = backend
  | .spaces => ∀ space, space ∈ backend.spaces ↔ NulFree space ∧ backend.Inhabited space
  | .contains space => backend.contains space = true ↔ backend.Inhabited space
  | .drop space => (backend.drop space).1 = true ↔ backend.Inhabited space
  | .get .. | .replace .. | .delete .. | .scan .. => True

/-- The contract is met at every call of a run. -/
def KeepsContract (backend : Backend α) : List (Call α ε σ) → Prop
  | [] => True
  | call :: rest => backend.MeetsContract call ∧ (backend.perform call).2.KeepsContract rest

/-- The call inserts nothing into a namespace that holds nothing. -/
def Call.Hollow (backend : Backend α) : Call α ε σ → Prop
  | .insertNew space entries => entries = [] ∧ ¬ backend.Inhabited space
  | _ => False

/-- The call inserts a key twice before any key that is taken. -/
def Call.Repeating (backend : Backend α) : Call α ε σ → Prop
  | .insertNew space entries => ¬ (backend.untakenKeys space entries).Nodup
  | _ => False

/-- No call of a run inserts nothing where nothing is, or repeats a key that is not
taken. -/
def HarmlessRun (backend : Backend α) : List (Call α ε σ) → Prop
  | [] => True
  | call :: rest => (¬ call.Hollow backend ∧ ¬ call.Repeating backend) ∧
      (backend.perform call).2.HarmlessRun rest

/-- A sound backend meets the contract at every call that does not repeat an untaken
key. -/
theorem meetsContract {backend : Backend α} {call : Call α ε σ} (sound : backend.Sound)
    (named : call.Named) (unrepeated : ¬ call.Repeating backend) : backend.MeetsContract call := by
  cases call with
  | insertNew space entries =>
    have spaceNamed : NulFree space := named space rfl
    have distinct : (backend.untakenKeys space entries).Nodup := not_not.mp unrepeated
    cases search : backend.firstTaken? space entries with
    | some entry =>
      simp [MeetsContract, perform, insertNew_taken spaceNamed distinct search]
    | none =>
      rw [untakenKeys_eq search] at distinct
      obtain ⟨after, stored, contents, -⟩ := insertNew_free spaceNamed distinct search
      simp only [MeetsContract, perform, stored]
      constructor
      · intro entry member
        have found : lookup entry.1 entries = some entry.2 :=
          (SortedMap.lookup_eq_some_iff distinct).mpr member
        simp [contents space entry.1 spaceNamed, found]
      · intro other key otherNamed outside
        rw [contents other key otherNamed]
        by_cases same : space = other
        · have absent : lookup key entries = none :=
            SortedMap.lookup_eq_none fun member => outside ⟨same, member⟩
          simp [absent]
        · simp [same]
  | spaces => exact mem_spaces_iff sound
  | contains space => exact contains_iff sound space
  | drop space =>
    simp only [MeetsContract, drop_fst]
    exact contains_iff sound space
  | get space key => trivial
  | replace space key value => trivial
  | delete space key => trivial
  | scan space visit start => trivial

/-- A call that is not hollow and repeats no untaken key keeps a backend sound. -/
theorem sound_perform {backend : Backend α} {call : Call α ε σ} (sound : backend.Sound)
    (named : call.Named) (solid : ¬ call.Hollow backend) (unrepeated : ¬ call.Repeating backend) :
    (backend.perform call).2.Sound := by
  cases call with
  | insertNew space entries =>
    have spaceNamed : NulFree space := named space rfl
    have distinct : (backend.untakenKeys space entries).Nodup := not_not.mp unrepeated
    cases search : backend.firstTaken? space entries with
    | some entry => simpa [perform, insertNew_taken spaceNamed distinct search] using sound
    | none =>
      rw [untakenKeys_eq search] at distinct
      obtain ⟨after, stored, -, keptSound⟩ := insertNew_free spaceNamed distinct search
      have nonempty : entries ≠ [] ∨ backend.Inhabited space := by
        by_cases nothing : entries = []
        · exact .inr (not_not.mp fun uninhabited => solid ⟨nothing, uninhabited⟩)
        · exact .inl nothing
      simpa [perform, stored] using keptSound sound nonempty
  | replace space key value =>
    cases present : backend.get? space key with
    | none => simpa [perform, replace?_absent value present] using sound
    | some old =>
      obtain ⟨after, replaced, -, keptSound⟩ := replace?_present value (named space rfl) present
      simpa [perform, replaced] using keptSound sound
  | delete space key => exact sound_delete space key sound
  | drop space => exact sound_drop space sound
  | get space key => exact sound
  | scan space visit start => exact sound
  | spaces => exact sound
  | contains space => exact sound

/-! ## Backends that agree -/

/-- Two sound backends in which the same is found. -/
structure Agreeing (left right : Backend α) : Prop where
  leftSound : left.Sound
  rightSound : right.Sound
  alike : left.Alike right

namespace Agreeing

variable {left right : Backend α} {space : String}

/-- Of agreeing backends both have something in a namespace, or neither has. -/
theorem inhabited_iff (agreeing : left.Agreeing right) (named : NulFree space) :
    left.Inhabited space ↔ right.Inhabited space := by
  simp only [Inhabited, agreeing.alike space _ named]

/-- Agreeing backends find the same first entry taken. -/
theorem firstTaken?_eq (agreeing : left.Agreeing right) (named : NulFree space)
    (entries : List (String × α)) :
    left.firstTaken? space entries = right.firstTaken? space entries := by
  simp only [firstTaken?, agreeing.alike space _ named]

/-- Agreeing backends find the same keys before the first one that is taken. -/
theorem untakenKeys_eq (agreeing : left.Agreeing right) (named : NulFree space)
    (entries : List (String × α)) :
    left.untakenKeys space entries = right.untakenKeys space entries := by
  simp only [untakenKeys, agreeing.alike space _ named]

/-- Agreeing backends contain the same namespaces. -/
theorem contains_eq (agreeing : left.Agreeing right) (named : NulFree space) :
    left.contains space = right.contains space := by
  rw [Bool.eq_iff_iff, contains_iff agreeing.leftSound, contains_iff agreeing.rightSound]
  exact agreeing.inhabited_iff named

/-- Whether a call inserts nothing where nothing is does not depend on which of two agreeing
backends is called. -/
theorem hollow_iff (agreeing : left.Agreeing right) {call : Call α ε σ} (named : call.Named) :
    call.Hollow left ↔ call.Hollow right := by
  cases call with
  | insertNew space entries =>
    simp only [Call.Hollow, agreeing.inhabited_iff (named space rfl)]
  | _ => rfl

/-- Whether a call repeats a key that is not taken does not depend on which of two agreeing
backends is called. -/
theorem repeating_iff (agreeing : left.Agreeing right) {call : Call α ε σ} (named : call.Named) :
    call.Repeating left ↔ call.Repeating right := by
  cases call with
  | insertNew space entries =>
    simp only [Call.Repeating, agreeing.untakenKeys_eq (named space rfl)]
  | _ => rfl

/-- Agreeing backends answer a call alike and agree afterwards, if it is neither hollow
nor repeating. -/
theorem perform (agreeing : left.Agreeing right) {call : Call α ε σ} (named : call.Named)
    (solid : ¬ call.Hollow left) (unrepeated : ¬ call.Repeating left) :
    (left.perform call).1 = (right.perform call).1 ∧
      (left.perform call).2.Agreeing (right.perform call).2 := by
  have leftSound : (left.perform call).2.Sound :=
    sound_perform agreeing.leftSound named solid unrepeated
  have rightSound : (right.perform call).2.Sound :=
    sound_perform agreeing.rightSound named (mt (agreeing.hollow_iff named).mpr solid)
      (mt (agreeing.repeating_iff named).mpr unrepeated)
  suffices same : (left.perform call).1 = (right.perform call).1 ∧
      (left.perform call).2.Alike (right.perform call).2 from
    ⟨same.1, leftSound, rightSound, same.2⟩
  cases call with
  | get space key =>
    exact ⟨congrArg Answer.found (agreeing.alike space key (named space rfl)), agreeing.alike⟩
  | insertNew space entries =>
    have spaceNamed : NulFree space := named space rfl
    have distinct : (left.untakenKeys space entries).Nodup := not_not.mp unrepeated
    have rightDistinct : (right.untakenKeys space entries).Nodup :=
      agreeing.untakenKeys_eq spaceNamed entries ▸ distinct
    have sameSearch := agreeing.firstTaken?_eq spaceNamed entries
    cases search : left.firstTaken? space entries with
    | some entry =>
      have leftRefused := insertNew_taken spaceNamed distinct search
      have rightRefused := insertNew_taken spaceNamed rightDistinct (sameSearch ▸ search)
      simp only [Backend.perform, leftRefused, rightRefused]
      exact ⟨trivial, agreeing.alike⟩
    | none =>
      rw [Backend.untakenKeys_eq search] at distinct
      obtain ⟨leftAfter, leftStored, leftContents, -⟩ := insertNew_free spaceNamed distinct search
      obtain ⟨rightAfter, rightStored, rightContents, -⟩ :=
        insertNew_free spaceNamed distinct (sameSearch ▸ search)
      simp only [Backend.perform, leftStored, rightStored]
      refine ⟨trivial, fun other key otherNamed => ?_⟩
      rw [leftContents other key otherNamed, rightContents other key otherNamed,
        agreeing.alike other key otherNamed]
  | replace space key value =>
    have spaceNamed : NulFree space := named space rfl
    have samePresence := agreeing.alike space key spaceNamed
    cases present : left.get? space key with
    | none =>
      have leftAbsent := replace?_absent value present
      have rightAbsent := replace?_absent value (samePresence ▸ present)
      simp only [Backend.perform, leftAbsent, rightAbsent]
      exact ⟨trivial, agreeing.alike⟩
    | some old =>
      obtain ⟨leftAfter, leftReplaced, leftContents, -⟩ :=
        replace?_present value spaceNamed present
      obtain ⟨rightAfter, rightReplaced, rightContents, -⟩ :=
        replace?_present value spaceNamed (samePresence ▸ present)
      simp only [Backend.perform, leftReplaced, rightReplaced]
      refine ⟨trivial, fun other otherKey otherNamed => ?_⟩
      rw [leftContents other otherKey otherNamed, rightContents other otherKey otherNamed,
        agreeing.alike other otherKey otherNamed]
  | delete space key =>
    have spaceNamed : NulFree space := named space rfl
    simp only [Backend.perform, delete_fst, agreeing.alike space key spaceNamed]
    refine ⟨trivial, fun other otherKey otherNamed => ?_⟩
    rw [get?_delete left key otherKey spaceNamed otherNamed,
      get?_delete right key otherKey spaceNamed otherNamed,
      agreeing.alike other otherKey otherNamed]
  | scan space visit start =>
    simp only [Backend.perform, scan, values_alike (named space rfl) agreeing.alike]
    exact ⟨trivial, agreeing.alike⟩
  | spaces =>
    have sameSpaces := spaces_alike agreeing.leftSound agreeing.rightSound agreeing.alike
    exact ⟨congrArg Answer.named sameSpaces, agreeing.alike⟩
  | contains space =>
    exact ⟨congrArg Answer.decided (agreeing.contains_eq (named space rfl)), agreeing.alike⟩
  | drop space =>
    have spaceNamed : NulFree space := named space rfl
    simp only [Backend.perform, drop_fst, agreeing.contains_eq spaceNamed]
    refine ⟨trivial, fun other key otherNamed => ?_⟩
    rw [get?_drop left key spaceNamed otherNamed, get?_drop right key spaceNamed otherNamed,
      agreeing.alike other key otherNamed]

/-- In a harmless run agreeing backends give the same answers and keep the contract. -/
theorem run (agreeing : left.Agreeing right) {calls : List (Call α ε σ)}
    (named : ∀ call ∈ calls, call.Named) (harmless : right.HarmlessRun calls) :
    left.answers calls = right.answers calls ∧ left.KeepsContract calls := by
  induction calls generalizing left right with
  | nil => exact ⟨rfl, trivial⟩
  | cons call rest inductionHypothesis =>
    obtain ⟨callNamed, restNamed⟩ := List.forall_mem_cons.mp named
    obtain ⟨⟨rightSolid, rightUnrepeated⟩, harmlessRest⟩ := harmless
    have solid : ¬ call.Hollow left := mt (agreeing.hollow_iff callNamed).mp rightSolid
    have unrepeated : ¬ call.Repeating left :=
      mt (agreeing.repeating_iff callNamed).mp rightUnrepeated
    obtain ⟨sameAnswer, agreeingAfter⟩ := agreeing.perform callNamed solid unrepeated
    obtain ⟨sameAnswers, kept⟩ := inductionHypothesis agreeingAfter restNamed harmlessRest
    refine ⟨?_, meetsContract agreeing.leftSound callNamed unrepeated, kept⟩
    simp only [answers, sameAnswer, sameAnswers]

end Agreeing

/-! ## Harmful insertions -/

/-- The file backend refuses to insert an untaken key twice. -/
theorem file_insertNew_repeating {table : FlatTable α} {space : String}
    {entries : List (String × α)} (named : NulFree space)
    (repeating : (Call.insertNew space entries : Call α ε σ).Repeating (file table)) :
    ∃ key, (file table).insertNew space entries = .error (takenId space key) ∧
      (file table).get? space key = none := by
  obtain ⟨key, refused, untaken⟩ := table.insertNew_repeated named repeating
  exact ⟨key, by simp [insertNew, refused, Except.map], untaken⟩

/-- A harmful insertion leaves the file backend as it is. -/
theorem file_perform_harmful {table : FlatTable α} {call : Call α ε σ} (named : call.Named)
    (harmful : call.Hollow (file table) ∨ call.Repeating (file table)) :
    ((file table).perform call).2 = file table := by
  cases call with
  | insertNew space entries =>
    rcases harmful with ⟨nothing, _⟩ | repeating
    · rw [nothing]
      rfl
    · obtain ⟨key, refused, -⟩ := file_insertNew_repeating (named space rfl) repeating
      simp [perform, refused]
  | _ => exact (harmful.elim id id).elim

/-- The file backend stays sound under every call with a proper name, harmless or not. -/
theorem file_sound_perform {table : FlatTable α} {call : Call α ε σ}
    (sound : (file table).Sound) (named : call.Named) : ((file table).perform call).2.Sound := by
  by_cases harmful : call.Hollow (file table) ∨ call.Repeating (file table)
  · rw [file_perform_harmful named harmful]
    exact sound
  · obtain ⟨solid, unrepeated⟩ := not_or.mp harmful
    exact sound_perform sound named solid unrepeated

/-- The file backend meets the contract at every call. -/
theorem file_meetsContract {table : FlatTable α} {call : Call α ε σ}
    (sound : (file table).Sound) (named : call.Named) : (file table).MeetsContract call := by
  by_cases repeating : call.Repeating (file table)
  · cases call with
    | insertNew space entries =>
      obtain ⟨key, refused, -⟩ := file_insertNew_repeating (named space rfl) repeating
      simp [MeetsContract, perform, refused]
    | _ => exact repeating.elim
  · exact meetsContract sound named repeating

/-- A call does not turn one kind of backend into the other. -/
theorem perform_memory (table : NestedTable α) (call : Call α ε σ) :
    ∃ after, ((memory table).perform call).2 = memory after := by
  cases call with
  | insertNew space entries =>
    cases outcome : table.insertNew space entries with
    | error error => exact ⟨table, by simp [perform, insertNew, outcome, Except.map]⟩
    | ok after => exact ⟨after, by simp [perform, insertNew, outcome, Except.map]⟩
  | replace space key value =>
    cases outcome : table.replace? space key value with
    | none => exact ⟨table, by simp [perform, replace?, outcome]⟩
    | some after => exact ⟨after, by simp [perform, replace?, outcome]⟩
  | delete space key => exact ⟨_, rfl⟩
  | drop space => exact ⟨_, rfl⟩
  | _ => exact ⟨table, rfl⟩

/-- A call does not turn a file backend into one in memory. -/
theorem perform_file (table : FlatTable α) (call : Call α ε σ) :
    ∃ after, ((file table).perform call).2 = file after := by
  cases call with
  | insertNew space entries =>
    cases outcome : table.insertNew space entries with
    | error error => exact ⟨table, by simp [perform, insertNew, outcome, Except.map]⟩
    | ok after => exact ⟨after, by simp [perform, insertNew, outcome, Except.map]⟩
  | replace space key value =>
    cases outcome : table.replace? space key value with
    | none => exact ⟨table, by simp [perform, replace?, outcome]⟩
    | some after => exact ⟨after, by simp [perform, replace?, outcome]⟩
  | delete space key => exact ⟨_, rfl⟩
  | drop space => exact ⟨_, rfl⟩
  | _ => exact ⟨table, rfl⟩

/-- The file backend keeps the contract in every run. -/
theorem file_keepsContract {table : FlatTable α} {calls : List (Call α ε σ)}
    (sound : (file table).Sound) (named : ∀ call ∈ calls, call.Named) :
    (file table).KeepsContract calls := by
  induction calls generalizing table with
  | nil => trivial
  | cons call rest inductionHypothesis =>
    obtain ⟨callNamed, restNamed⟩ := List.forall_mem_cons.mp named
    obtain ⟨after, performed⟩ := perform_file table call
    have soundAfter : (file after).Sound := performed ▸ file_sound_perform sound callNamed
    exact ⟨file_meetsContract sound callNamed, performed ▸ inductionHypothesis soundAfter restNamed⟩

/-- After a hollow insertion the memory backend confirms the namespace and the file
backend does not. -/
theorem hollow_disagrees {nested : NestedTable α} {flat : FlatTable α} {call : Call α ε σ}
    (agreeing : (memory nested).Agreeing (file flat)) (named : call.Named)
    (hollow : call.Hollow (file flat)) :
    ∃ space, call.space? = some space ∧
      ((memory nested).perform call).2.contains space ≠
        ((file flat).perform call).2.contains space := by
  cases call with
  | insertNew space entries =>
    have nothing : entries = [] := hollow.1
    subst nothing
    have confirmed : ((memory nested).perform
        (.insertNew space [] : Call α ε σ)).2.contains space = true := by
      simp [perform, insertNew, NestedTable.insertNew, Except.map, contains,
        NestedTable.contains, SortedMap.contains]
    have denied : (file flat).contains space = false :=
      Bool.eq_false_iff.mpr (mt (contains_iff agreeing.rightSound space).mp hollow.2)
    refine ⟨space, rfl, ?_⟩
    rw [confirmed, file_perform_harmful named (.inl hollow), denied]
    decide
  | _ => exact hollow.elim

/-- A repeating insertion is answered differently by the two kinds of backend: if memory
refuses it, then for a key that was taken. -/
theorem repeating_disagrees {nested : NestedTable α} {flat : FlatTable α} {call : Call α ε σ}
    (agreeing : (memory nested).Agreeing (file flat)) (named : call.Named)
    (repeating : call.Repeating (file flat)) :
    ((memory nested).perform call).1 ≠ ((file flat).perform call).1 := by
  cases call with
  | insertNew space entries =>
    have spaceNamed : NulFree space := named space rfl
    obtain ⟨key, refused, untaken⟩ := file_insertNew_repeating spaceNamed repeating
    cases search : (memory nested).firstTaken? space entries with
    | none =>
      have searched : (entries.find? fun entry => (nested.get? space entry.1).isSome) = none :=
        search
      obtain ⟨after, stored⟩ : ∃ after, (memory nested).insertNew space entries = .ok after := by
        simp [insertNew, nested.insertNew_eq, searched, Except.map]
      simp [perform, refused, stored]
    | some entry =>
      have searched : (entries.find? fun entry => (nested.get? space entry.1).isSome) =
          some entry := search
      have alsoRefused : (memory nested).insertNew space entries =
          .error (takenId space entry.1) := by
        simp [insertNew, nested.insertNew_eq, searched, Except.map]
      have taken : (nested.get? space entry.1).isSome := by
        simpa using List.find?_some searched
      have different : entry.1 ≠ key := by
        rintro rfl
        have nothing : nested.get? space entry.1 = none :=
          (agreeing.alike space entry.1 spaceNamed).trans untaken
        simp [nothing] at taken
      simp [perform, refused, alsoRefused, takenId_inj, different]
  | _ => exact repeating.elim

/-- If agreeing backends of both kinds answer every beginning of a run alike, whatever is
read after it, then the run is harmless. -/
theorem harmless_of_answers {nested : NestedTable α} {flat : FlatTable α}
    {calls : List (Call α ε σ)} (agreeing : (memory nested).Agreeing (file flat))
    (named : ∀ call ∈ calls, call.Named)
    (same : ∀ early, early <+: calls → ∀ reads : List (Call α ε σ),
      (∀ read ∈ reads, read.Named ∧ read.Reading) →
        (memory nested).answers (early ++ reads) = (file flat).answers (early ++ reads)) :
    (file flat).HarmlessRun calls := by
  induction calls generalizing nested flat with
  | nil => trivial
  | cons call rest inductionHypothesis =>
    obtain ⟨callNamed, restNamed⟩ := List.forall_mem_cons.mp named
    have starts : [call] <+: call :: rest := ⟨rest, rfl⟩
    have unrepeated : ¬ call.Repeating (file flat) := by
      intro repeating
      have sameAnswers := same [call] starts [] (by simp)
      simp only [List.append_nil, answers, List.cons.injEq, and_true] at sameAnswers
      exact repeating_disagrees agreeing callNamed repeating sameAnswers
    have solid : ¬ call.Hollow (file flat) := by
      intro hollow
      obtain ⟨space, aboutSpace, different⟩ := hollow_disagrees agreeing callNamed hollow
      have sameAnswers := same [call] starts [.contains space] (by
        simp only [List.mem_singleton, forall_eq]
        refine ⟨fun other about => ?_, trivial⟩
        cases about
        exact callNamed space aboutSpace)
      simp only [List.cons_append, List.nil_append, answers, List.cons.injEq, perform,
        Answer.decided.injEq, and_true] at sameAnswers
      exact different sameAnswers.2
    refine ⟨⟨solid, unrepeated⟩, ?_⟩
    obtain ⟨-, agreeingAfter⟩ := agreeing.perform callNamed
      (mt (agreeing.hollow_iff callNamed).mp solid)
      (mt (agreeing.repeating_iff callNamed).mp unrepeated)
    obtain ⟨nestedAfter, performedNested⟩ := perform_memory nested call
    obtain ⟨flatAfter, performedFlat⟩ := perform_file flat call
    rw [performedNested, performedFlat] at agreeingAfter
    rw [performedFlat]
    refine inductionHypothesis agreeingAfter restNamed fun early beginning reads reading => ?_
    have sameAnswers := same (call :: early) (List.cons_prefix_cons.mpr ⟨rfl, beginning⟩) reads reading
    simp only [List.cons_append, answers, List.cons.injEq, performedNested, performedFlat] at sameAnswers
    exact sameAnswers.2

/-! ## Agreement of the two backends -/

/-- A run is harmless exactly if its first part is, and the rest is from where the first part
leads. -/
theorem harmlessRun_append (backend : Backend α) (early late : List (Call α ε σ)) :
    backend.HarmlessRun (early ++ late) ↔
      backend.HarmlessRun early ∧ (backend.after early).HarmlessRun late := by
  induction early generalizing backend with
  | nil => simp [HarmlessRun, after]
  | cons call rest inductionHypothesis =>
    simp only [List.cons_append, HarmlessRun, after_cons, inductionHypothesis, and_assoc]

/-- Reading does no harm. -/
theorem harmlessRun_reading {reads : List (Call α ε σ)} (backend : Backend α)
    (reading : ∀ read ∈ reads, read.Reading) : backend.HarmlessRun reads := by
  induction reads generalizing backend with
  | nil => trivial
  | cons read rest inductionHypothesis =>
    obtain ⟨readReading, restReading⟩ := List.forall_mem_cons.mp reading
    refine ⟨?_, inductionHypothesis _ restReading⟩
    cases read with
    | get space key => exact ⟨id, id⟩
    | scan space visit start => exact ⟨id, id⟩
    | spaces => exact ⟨id, id⟩
    | contains space => exact ⟨id, id⟩
    | _ => exact readReading.elim

/-- Empty backends of both kinds agree. -/
theorem agreeing_empty : (memory (.empty : NestedTable α)).Agreeing (file .empty) where
  leftSound := NestedTable.sound_empty
  rightSound := FlatTable.sound_empty
  alike _ _ _ := rfl

/-- Starting empty, the file backend keeps the contract in every run. The memory backend
keeps it too and gives the same answers, whatever is read after any beginning of the run,
exactly if no insertion of the run puts nothing where nothing is or repeats a key that is
not taken. -/
theorem backends_agree_iff_harmless (calls : List (Call α ε σ))
    (named : ∀ call ∈ calls, call.Named) :
    (file (.empty : FlatTable α)).KeepsContract calls ∧
      ((∀ early, early <+: calls → ∀ reads : List (Call α ε σ),
          (∀ read ∈ reads, read.Named ∧ read.Reading) →
          (memory .empty).answers (early ++ reads) = (file .empty).answers (early ++ reads) ∧
            (memory .empty).KeepsContract (early ++ reads)) ↔
        (file .empty).HarmlessRun calls) := by
  refine ⟨file_keepsContract FlatTable.sound_empty named, ?_, ?_⟩
  · intro same
    exact harmless_of_answers agreeing_empty named fun early beginning reads reading =>
      (same early beginning reads reading).1
  · rintro harmless early ⟨rest, rfl⟩ reads reading
    have allNamed : ∀ call ∈ early ++ reads, call.Named := by
      intro call member
      rcases List.mem_append.mp member with inEarly | inReads
      · exact named call (List.mem_append_left rest inEarly)
      · exact (reading call inReads).1
    have harmlessEarly := ((harmlessRun_append _ early rest).mp harmless).1
    have harmlessReads := harmlessRun_reading ((file .empty).after early) fun read member =>
      (reading read member).2
    exact agreeing_empty.run allNamed
      ((harmlessRun_append _ early reads).mpr ⟨harmlessEarly, harmlessReads⟩)

/-- The theorem at a run with an insertion that is refused for its second key. -/
theorem backends_agree_on_refusal :
    let calls : List (Call String Unit Unit) :=
      [.insertNew "db/c" [("b", "1"), ("a", "2")], .insertNew "db/c" [("c", "3"), ("a", "4")],
        .spaces]
    (∀ call ∈ calls, call.Named) ∧ (file (.empty : FlatTable String)).HarmlessRun calls ∧
      (memory .empty).answers calls = (file .empty).answers calls := by
  intro calls
  have named : ∀ call ∈ calls, call.Named := by
    simp only [calls, List.mem_cons, List.not_mem_nil, or_false, forall_eq_or_imp, forall_eq]
    refine ⟨?_, ?_, ?_⟩ <;> simp [Call.Named, Call.space?] <;> decide
  have harmless : (file .empty).HarmlessRun calls := by
    refine ⟨⟨?_, ?_⟩, ⟨?_, ?_⟩, ⟨id, id⟩, trivial⟩
    · exact fun hollow => absurd hollow.1 (by decide)
    · exact fun repeating => repeating (by decide)
    · exact fun hollow => absurd hollow.1 (by decide)
    · exact fun repeating => repeating (by decide)
  have agree := (backends_agree_iff_harmless calls named).2.mpr harmless calls
    (List.prefix_refl calls) [] (by simp)
  exact ⟨named, harmless, by simpa using agree.1⟩

/-- An empty insertion shows in memory as a namespace without keys, which the contract
forbids and the file backend does not show. A key that is repeated in one batch is stored
with its last value in memory, where the file backend refuses the batch. -/
theorem backends_disagree :
    let hollow : List (Call String Unit Unit) := [.insertNew "db/c" [], .spaces]
    let repeating : List (Call String Unit Unit) :=
      [.insertNew "db/c" [("a", "1"), ("a", "2")], .get "db/c" "a"]
    (memory .empty).answers hollow = [.stored, .named ["db/c"]] ∧
      (file .empty).answers hollow = [.stored, .named []] ∧
      ¬ (memory (.empty : NestedTable String)).KeepsContract hollow ∧
      (memory .empty).answers repeating = [.stored, .found (some "2")] ∧
      (file .empty).answers repeating = [.refused (takenId "db/c" "a"), .found none] ∧
      ¬ (memory (.empty : NestedTable String)).KeepsContract repeating := by
  intro hollow repeating
  refine ⟨rfl, rfl, ?_, rfl, rfl, ?_⟩
  · rintro ⟨-, listed, -⟩
    obtain ⟨-, key, value, found⟩ := (listed "db/c").mp (List.mem_cons_self ..)
    cases found
  · rintro ⟨⟨stored, -⟩, -⟩
    have first := stored ("a", "1") (by simp)
    exact absurd first (by decide)

end DocumentGateway.Backend

import Mathlib.Data.List.Forall2
import Mathlib.Logic.Basic

/-!
# Computations that can fail

A sequence of steps succeeds exactly if all of them do. What a sequence has checked and
made is read off its success, one step after another. A computation that succeeds
exactly if a judgement holds decides it, and a sequence of such steps decides all of
their judgements.
-/
namespace DocumentGateway

variable {ε α β γ : Type}

/-- Two steps in a row succeed exactly if the first one does and the second one does with its
value. -/
theorem bind_eq_ok_iff {step : Except ε α} {next : α → Except ε β} {result : β} :
    step >>= next = .ok result ↔ ∃ value, step = .ok value ∧ next value = .ok result := by
  cases step with
  | error error => simp [bind, Except.bind]
  | ok value => simp [bind, Except.bind]

/-- A success that is mapped comes from a success. -/
theorem map_eq_ok_iff {step : Except ε α} {f : α → β} {result : β} :
    step.map f = .ok result ↔ ∃ value, step = .ok value ∧ f value = result := by
  cases step with
  | error error => simp [Except.map]
  | ok value => simp [Except.map]

/-- Another wording of the error leaves the successes as they are. -/
theorem mapError_eq_ok_iff {ε' : Type} {step : Except ε α} {f : ε → ε'} {result : α} :
    step.mapError f = .ok result ↔ step = .ok result := by
  cases step with
  | error error =>
    constructor <;>
    · intro same
      cases same
  | ok value =>
    constructor <;>
    · intro same
      cases same
      rfl

/-- What is left when the error is forgotten is the value of a success. -/
theorem toOption_eq_some_iff {result : Except ε α} {value : α} :
    result.toOption = some value ↔ result = .ok value := by
  cases result <;> simp [Except.toOption]

/-- What is made of the second of two results is made of what both steps give. -/
theorem bind_map_ok {step : Except ε α} {next : α → Except ε β} (f : β → γ) :
    (step >>= fun value => next value >>= fun result => .ok (f result)) =
      (step >>= next).map f := by
  cases step with
  | error error => rfl
  | ok value =>
    change (next value >>= fun result => .ok (f result)) = (next value).map f
    cases next value <;> rfl

/-! ## The same for each item -/

/-- What is read in one step after another is read of each item. -/
theorem forall₂_of_mapM {read : α → Except ε β} {items : List α} {results : List β}
    (done : items.mapM read = .ok results) :
    List.Forall₂ (fun item result => read item = .ok result) items results := by
  induction items generalizing results with
  | nil =>
    obtain rfl : [] = results := by simpa [pure, Except.pure] using done
    exact .nil
  | cons item rest inductionHypothesis =>
    rw [List.mapM_cons] at done
    obtain ⟨result, readItem, later⟩ := bind_eq_ok_iff.mp done
    obtain ⟨others, readOthers, made⟩ := bind_eq_ok_iff.mp later
    obtain rfl := Except.ok.inj made
    exact .cons readItem (inductionHypothesis readOthers)

/-- All items can be read exactly if each of them can. -/
theorem mapM_isOk_iff {read : α → Except ε β} {items : List α} :
    (∃ results, items.mapM read = .ok results) ↔ ∀ item ∈ items, ∃ result, read item = .ok result := by
  constructor
  · rintro ⟨results, done⟩
    have read := forall₂_of_mapM done
    clear done
    induction read with
    | nil => simp
    | cons readItem _ inductionHypothesis =>
      exact List.forall_mem_cons.mpr ⟨⟨_, readItem⟩, inductionHypothesis⟩
  · intro each
    induction items with
    | nil => exact ⟨[], rfl⟩
    | cons item rest inductionHypothesis =>
      obtain ⟨⟨result, readItem⟩, later⟩ := List.forall_mem_cons.mp each
      obtain ⟨results, readRest⟩ := inductionHypothesis later
      exact ⟨result :: results, by rw [List.mapM_cons, readItem, readRest]; rfl⟩

/-- The results are what is read of one of the items. -/
theorem mem_of_mapM {read : α → Except ε β} {items : List α} {results : List β}
    (done : items.mapM read = .ok results) (result : β) :
    result ∈ results ↔ ∃ item ∈ items, read item = .ok result := by
  have each := forall₂_of_mapM done
  clear done
  induction each with
  | nil => simp
  | cons readItem _ inductionHypothesis =>
    simp [inductionHypothesis, readItem, eq_comm]

/-- The result accepts exactly if the judgement holds, and what it answers is as meant. -/
inductive Decides : Except ε α → Prop → (α → Prop) → Prop where
  | accepted {answer : α} {judged : Prop} {meant : α → Prop} (holds : judged)
      (means : meant answer) : Decides (.ok answer) judged meant
  | refused {reason : ε} {judged : Prop} {meant : α → Prop} (fails : ¬judged) :
      Decides (.error reason) judged meant

namespace Decides

variable {result : Except ε α} {judged : Prop} {meant : α → Prop}

/-- A decision may be read as one of an equivalent judgement, with a weaker meaning of the answer.
-/
theorem imp (decides : Decides result judged meant) {other : Prop} {intended : α → Prop}
    (same : judged ↔ other) (means : ∀ answer, meant answer → intended answer) :
    Decides result other intended := by
  cases decides with
  | accepted holds meansHere => exact .accepted (same.mp holds) (means _ meansHere)
  | refused fails => exact .refused (mt same.mpr fails)

/-- A decision stays one when its answer is mapped, if the mapped answer means what is intended.
-/
theorem map (decides : Decides result judged meant) {f : α → β} {intended : β → Prop}
    (means : ∀ answer, meant answer → intended (f answer)) :
    Decides (result.map f) judged intended := by
  cases decides with
  | accepted holds meansHere => exact .accepted holds (means _ meansHere)
  | refused fails => exact .refused fails

/-- Two results in a row decide both judgements. -/
theorem bind (decides : Decides result judged meant) {next : α → Except ε β} {later : Prop}
    {intended : β → Prop}
    (decidesNext : ∀ answer, meant answer → Decides (next answer) later intended) :
    Decides (result.bind next) (judged ∧ later) intended := by
  cases decides with
  | refused fails => exact .refused fun both => fails both.1
  | @accepted answer _ _ holds means =>
    change Decides (next answer) _ _
    exact (decidesNext answer means).imp ⟨fun after => ⟨holds, after⟩, And.right⟩ fun _ => id

end Decides

end DocumentGateway

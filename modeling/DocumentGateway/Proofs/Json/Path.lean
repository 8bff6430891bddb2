import DocumentGateway.Json.Path
import DocumentGateway.Proofs.Json.Order

/-!
# Laws of writing and removing at a path

Looking up a path enters objects and arrays, while writing and removing follow members only.
What is copied into a document piece by piece is an excerpt of what it is copied from: every
place in it holds what stands at the same place of the original, or an object that is still
filled. This is kept by every copy, and it is why a copy never meets anything but its own
kind on its way. What is removed is gone from every path that begins with the removed one,
provided that the removed path leads through members only; paths that part from it are not
touched.
-/
namespace DocumentGateway.Json

variable {source value : Json} {path : List String} {kept : Document}

/-- A path into an object goes to the member of its first name. -/
@[simp] theorem follow_object (name : String) (rest : List String) (members : Document) :
    follow (name :: rest) (.object members) = (Keyed.get? name members).bind (follow rest) := rfl

/-- A path leads somewhere if its first segment does and the rest leads on from there. -/
theorem follow_cons_eq_some {name : String} {rest : List String} :
    follow (name :: rest) source = some value ↔
      ∃ child, step name source = some child ∧ follow rest child = some value := by
  rw [follow, Option.bind_eq_some_iff]

/-- What a path leads to in a value whose keys are distinct is such a value. -/
theorem distinct_follow (distinct : source.Distinct) (led : follow path source = some value) :
    value.Distinct := by
  induction path generalizing source with
  | nil =>
    obtain rfl := Option.some.inj led
    exact distinct
  | cons name rest inductionHypothesis =>
    obtain ⟨child, stepped, led⟩ := follow_cons_eq_some.mp led
    refine inductionHypothesis ?_ led
    cases distinct with
    | null | bool | number | string => cases stepped
    | object keys each => exact each (name, child) (Keyed.mem_of_get? stepped)
    | array each =>
      obtain ⟨place, -, held⟩ := Option.bind_eq_some_iff.mp stepped
      exact each child (List.mem_of_getElem? held)

/-- To follow two paths in a row is to follow the second one from where the first one leads. -/
theorem follow_append (before after : List String) (source : Json) :
    follow (before ++ after) source = (follow before source).bind (follow after) := by
  induction before generalizing source with
  | nil => rfl
  | cons name rest inductionHypothesis =>
    rw [List.cons_append, follow, follow, Option.bind_assoc]
    exact Option.bind_congr fun child _ => inductionHypothesis child

/-! ## Writing -/

/-- Writing what stands there anyway changes nothing. -/
theorem setPath_present (held : follow path (.object kept) = some value) :
    setPath path value kept = kept := by
  fun_induction setPath path value kept with
  | case1 | case5 => rfl
  | case2 name value kept =>
    apply Keyed.insert_present
    simpa [follow, step] using held
  | case3 name rest value kept _ absent => simp [absent] at held
  | case4 name rest value kept _ members found inductionHypothesis =>
    rw [inductionHypothesis (by simpa [found] using held)]
    exact Keyed.insert_present found

/-- An excerpt of a value: where a path leads in the excerpt it leads in the value, namely to the
same, or else the excerpt has an object there. -/
def Excerpt (source excerpt : Json) : Prop :=
  ∀ path part, follow path excerpt = some part →
    ∃ whole, follow path source = some whole ∧ (part = whole ∨ ∃ members, part = .object members)

/-- A value is an excerpt of itself. -/
theorem excerpt_refl (source : Json) : Excerpt source source :=
  fun _ part led => ⟨part, led, .inl rfl⟩

/-- An object that is not filled yet is an excerpt of whatever it will be filled from. -/
theorem excerpt_empty (source : Json) : Excerpt source (.object []) := by
  intro path part led
  cases path with
  | nil =>
    obtain rfl := Option.some.inj led
    exact ⟨source, rfl, .inr ⟨[], rfl⟩⟩
  | cons name rest => cases led

namespace Excerpt

/-- What an excerpt holds is an excerpt of what stands at its place. -/
theorem child {name : String} {child : Json} (excerpt : Excerpt source (.object kept))
    (stepped : step name source = some value) (held : Keyed.get? name kept = some child) :
    Excerpt value child := by
  intro path part led
  obtain ⟨whole, found, same⟩ := excerpt (name :: path) part (by simp [held, led])
  exact ⟨whole, by simpa [follow, stepped] using found, same⟩

/-- An excerpt of what stands at a place may be put there. -/
theorem insert {name : String} {child : Json} (excerpt : Excerpt source (.object kept))
    (stepped : step name source = some value) (childExcerpt : Excerpt value child) :
    Excerpt source (.object (Keyed.insert name child kept)) := by
  intro path part led
  cases path with
  | nil =>
    obtain rfl := Option.some.inj led
    exact ⟨source, rfl, .inr ⟨_, rfl⟩⟩
  | cons segment rest =>
    rw [follow_object, Keyed.get?_insert] at led
    by_cases here : name = segment
    · subst here
      obtain ⟨whole, found, same⟩ := childExcerpt rest part (by simpa using led)
      exact ⟨whole, by simpa [follow, stepped] using found, same⟩
    · exact excerpt (segment :: rest) part (by simpa [here] using led)

/-- Copying from the value keeps the excerpt one. -/
theorem setPath (excerpt : Excerpt source (.object kept))
    (found : follow path source = some value) :
    Excerpt source (.object (setPath path value kept)) := by
  fun_induction Json.setPath path value kept generalizing source with
  | case1 | case5 => exact excerpt
  | case2 name value kept =>
    obtain ⟨child, stepped, led⟩ := follow_cons_eq_some.mp found
    obtain rfl := Option.some.inj led
    exact excerpt.insert stepped (excerpt_refl child)
  | case3 name rest value kept _ absent inductionHypothesis =>
    obtain ⟨child, stepped, led⟩ := follow_cons_eq_some.mp found
    exact excerpt.insert stepped (inductionHypothesis (excerpt_empty child) led)
  | case4 name rest value kept _ members held inductionHypothesis =>
    obtain ⟨child, stepped, led⟩ := follow_cons_eq_some.mp found
    exact excerpt.insert stepped (inductionHypothesis (excerpt.child stepped held) led)

end Excerpt

/-- What is copied into an excerpt is found there. If anything but an object is on the way, it is
a copy already and holds what is copied. -/
theorem follow_setPath (excerpt : Excerpt source (.object kept))
    (found : follow path source = some value) (nonempty : path ≠ []) :
    follow path (.object (setPath path value kept)) = some value := by
  fun_induction setPath path value kept generalizing source with
  | case1 => contradiction
  | case2 name value kept => simp [follow, step]
  | case3 name rest value kept more absent inductionHypothesis =>
    obtain ⟨child, stepped, led⟩ := follow_cons_eq_some.mp found
    simpa using inductionHypothesis (excerpt_empty child) led (by simpa using more)
  | case4 name rest value kept more members held inductionHypothesis =>
    obtain ⟨child, stepped, led⟩ := follow_cons_eq_some.mp found
    simpa using inductionHypothesis (excerpt.child stepped held) led (by simpa using more)
  | case5 name rest value kept more other noObject held =>
    obtain ⟨child, stepped, led⟩ := follow_cons_eq_some.mp found
    obtain ⟨whole, wholeFound, copyOrObject⟩ := excerpt [name] other (by simp [held, follow, step])
    obtain rfl : child = whole := by simpa [follow, stepped] using wholeFound
    rcases copyOrObject with rfl | ⟨members, rfl⟩
    · simpa [held] using led
    · exact absurd rfl (noObject members)

/-- Writing does not touch the members beside the first one on its way. -/
theorem get?_setPath_other {name other : String} (different : name ≠ other) (rest : List String)
    (value : Json) (kept : Document) :
    Keyed.get? other (setPath (name :: rest) value kept) = Keyed.get? other kept := by
  cases rest with
  | nil => simp [setPath, different]
  | cons next rest =>
    cases held : Keyed.get? name kept with
    | none => simp [setPath, held, different]
    | some child => cases child <;> simp [setPath, held, different]

/-- What a document and the value have both at one place is not lost by another copy from this
value. -/
theorem follow_setPath_kept {other : List String} {held : Json}
    (found : follow path source = some value) (copied : follow other source = some held)
    (there : follow other (.object kept) = some held) :
    follow other (.object (setPath path value kept)) = some held := by
  induction path generalizing source kept other with
  | nil => exact there
  | cons name rest inductionHypothesis =>
    cases other with
    | nil =>
      -- the document is the whole value
      obtain rfl := Option.some.inj copied
      obtain rfl := Option.some.inj there
      rw [setPath_present found]
      rfl
    | cons segment others =>
      rw [follow_object]
      by_cases here : name = segment
      · subst here
        obtain ⟨child, stepped, led⟩ := follow_cons_eq_some.mp found
        obtain ⟨inner, innerHeld, innerLed⟩ := follow_cons_eq_some.mp there
        have copiedChild : follow others child = some held := by
          simpa [follow, stepped] using copied
        change Keyed.get? name kept = some inner at innerHeld
        cases rest with
        | nil =>
          obtain rfl := Option.some.inj led
          simpa [setPath] using copiedChild
        | cons next rest =>
          cases inner with
          | object members =>
            simpa [setPath, innerHeld] using inductionHypothesis led copiedChild innerLed
          | null | bool | number | string | array =>
            simpa [setPath, innerHeld] using innerLed
      · rw [get?_setPath_other here]
        exact there

/-! ## Removing -/

/-- The value reached by steps to members only. -/
def descend : List String → Json → Option Json
  | [], value => some value
  | name :: rest, value => (value.member? name).bind (descend rest)

/-- A path passes an array if an array stands on it before its end. -/
def PassesArray (path : List String) (value : Json) : Prop :=
  ∃ before after items, after ≠ [] ∧ before ++ after = path ∧
    follow before value = some (.array items)

/-- A path through an object passes an array exactly if it does so behind the member. -/
theorem passesArray_object {name : String} {rest : List String} {child : Json}
    (held : Keyed.get? name kept = some child) :
    PassesArray (name :: rest) (.object kept) ↔ PassesArray rest child := by
  constructor
  · rintro ⟨before, after, items, more, same, led⟩
    cases before with
    | nil => cases led
    | cons segment before =>
      obtain ⟨rfl, rfl⟩ := List.cons.inj same
      exact ⟨before, after, items, more, rfl, by simpa [held] using led⟩
  · rintro ⟨before, after, items, more, rfl, led⟩
    exact ⟨name :: before, after, items, more, rfl, by simpa [held] using led⟩

/-- A path that leads somewhere leads through members only unless it passes an array. -/
theorem descend_eq_none_iff (led : follow path source = some value) :
    descend path source = none ↔ PassesArray path source := by
  induction path generalizing source with
  | nil =>
    constructor
    · intro lost
      cases lost
    · rintro ⟨before, after, items, more, same, -⟩
      exact absurd (List.append_eq_nil_iff.mp same).2 more
  | cons name rest inductionHypothesis =>
    obtain ⟨child, stepped, ledOn⟩ := follow_cons_eq_some.mp led
    cases source with
    | object members =>
      change Keyed.get? name members = some child at stepped
      rw [passesArray_object stepped, ← inductionHypothesis ledOn]
      simp [descend, member?, members?, stepped]
    | array items =>
      constructor
      · intro _
        exact ⟨[], name :: rest, items, List.cons_ne_nil name rest, rfl, rfl⟩
      · intro _
        rfl
    | null | bool | number | string => cases stepped

/-- What a path that leads somewhere begins with leads through members only unless it passes an
array. -/
theorem descend_ne_none_iff {before : List String} (begins : before <+: path)
    (leads : follow path source ≠ none) :
    descend before source ≠ none ↔ ¬ PassesArray before source := by
  obtain ⟨after, rfl⟩ := begins
  cases led : follow before source with
  | none => exact absurd (by rw [follow_append, led]; rfl) leads
  | some value => exact not_congr (descend_eq_none_iff led)

/-- A single step from an object passes no array. -/
theorem not_passesArray_member (name : String) (members : Document) :
    ¬ PassesArray [name] (.object members) := by
  rintro ⟨before, after, items, more, same, led⟩
  cases before with
  | nil => cases led
  | cons segment before =>
    have short : before ++ after = [] := (List.cons.inj same).2
    exact more (List.append_eq_nil_iff.mp short).2

/-- A way to follow paths that finds the members of objects. Such ways differ in arrays only. -/
structure Walks (walk : List String → Json → Option Json) : Prop where
  start : ∀ value, walk [] value = some value
  member : ∀ name rest members,
    walk (name :: rest) (.object members) = (Keyed.get? name members).bind (walk rest)

/-- Paths that may step into arrays find the members of objects. -/
theorem walks_follow : Walks follow :=
  ⟨fun _ => rfl, fun _ _ _ => rfl⟩

/-- Paths that step to members only find the members of objects. -/
theorem walks_descend : Walks descend :=
  ⟨fun _ => rfl, fun _ _ _ => rfl⟩

variable {removed : List String} {document : Document}

/-- The empty path leads nowhere else. -/
@[simp] theorem descend_nil (value : Json) : descend [] value = some value := rfl

/-- A path of members into an object goes to the member of its first name. -/
@[simp] theorem descend_object (name : String) (rest : List String) (members : Document) :
    descend (name :: rest) (.object members) = (Keyed.get? name members).bind (descend rest) := rfl

/-- Removal keeps the keys of every object apart. -/
theorem distinct_removePath (distinct : (object document).Distinct) (removed : List String) :
    (object (removePath removed document)).Distinct := by
  fun_induction removePath removed document with
  | case1 | case4 => exact distinct
  | case2 name document =>
    obtain - | - | - | - | - | ⟨keys, each⟩ := distinct
    refine .object (Keyed.keys_swapRemove_nodup keys) ?_
    intro member inRemaining
    have inKept := (Keyed.swapRemove_perm keys).mem_iff.mp inRemaining
    exact each member (List.mem_filter.mp inKept).1
  | case3 name document rest _ members held inductionHypothesis =>
    obtain - | - | - | - | - | ⟨keys, each⟩ := distinct
    refine .object (Keyed.keys_insert_nodup keys) ?_
    intro member inChanged
    rcases Keyed.mem_insert inChanged with rfl | before
    · exact inductionHypothesis (each (name, .object members) (Keyed.mem_of_get? held))
    · exact each member before

/-- A path leads nowhere after a removal exactly if it did before, or if it begins with the
removed path and this one leads through members only. -/
theorem Walks.removePath_eq_none_iff {walk : List String → Json → Option Json} (walks : Walks walk)
    (nonempty : removed ≠ []) (distinct : (object document).Distinct) :
    walk path (.object (removePath removed document)) = none ↔
      walk path (.object document) = none ∨
        removed <+: path ∧ descend removed (.object document) ≠ none := by
  fun_induction removePath removed document generalizing path with
  | case1 => contradiction
  | case2 name document =>
    cases path with
    | nil => simp [walks.start]
    | cons segment others =>
      obtain - | - | - | - | - | ⟨keys, -⟩ := distinct
      rw [walks.member, walks.member, Keyed.get?_swapRemove keys]
      by_cases here : name = segment
      · subst here
        cases held : Keyed.get? name document <;> simp [held, descend_nil]
      · simp [here]
  | case3 name document rest more members held inductionHypothesis =>
    cases path with
    | nil => simp [walks.start]
    | cons segment others =>
      obtain - | - | - | - | - | ⟨keys, each⟩ := distinct
      rw [walks.member, walks.member, Keyed.get?_insert]
      by_cases here : name = segment
      · subst here
        simpa [held] using inductionHypothesis (by simpa using more)
          (each (name, .object members) (Keyed.mem_of_get? held))
      · simp [here]
  | case4 name rest document more noObject =>
    -- what is not an object has no members, so the removed path leads nowhere
    have nowhere : descend (name :: rest) (.object document) = none := by
      obtain ⟨next, rest, rfl⟩ := List.exists_cons_of_ne_nil more
      cases held : Keyed.get? name document with
      | none => simp [held]
      | some child =>
        cases child with
        | object members => exact absurd held (noObject members)
        | null | bool | number | string | array => simp [held, descend, member?, members?]
    simp [nowhere]

/-- Removal does not touch a path that parts from the removed one. -/
theorem follow_removePath_apart (distinct : (object document).Distinct)
    (notAfter : ¬ removed <+: path) (notBefore : ¬ path <+: removed) :
    follow path (.object (removePath removed document)) = follow path (.object document) := by
  fun_induction removePath removed document generalizing path with
  | case1 | case4 => rfl
  | case2 name document =>
    cases path with
    | nil => exact absurd List.nil_prefix notBefore
    | cons segment others =>
      obtain - | - | - | - | - | ⟨keys, -⟩ := distinct
      have different : name ≠ segment := by simpa using notAfter
      simp [Keyed.get?_swapRemove keys, different]
  | case3 name document rest more members held inductionHypothesis =>
    cases path with
    | nil => exact absurd List.nil_prefix notBefore
    | cons segment others =>
      obtain - | - | - | - | - | ⟨keys, each⟩ := distinct
      rw [follow_object, follow_object, Keyed.get?_insert]
      by_cases here : name = segment
      · subst here
        rw [if_pos rfl, held]
        exact inductionHypothesis (each (name, .object members) (Keyed.mem_of_get? held))
          (by simpa using notAfter) (by simpa using notBefore)
      · rw [if_neg here]

end DocumentGateway.Json

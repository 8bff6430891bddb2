import DocumentGateway.Proofs.Store.ImmutableSet

/-!
# Immutable collections in a configuration

A configuration gives the immutable collections as a list or in the compact form, and shows them
as a list. What it shows is read again as the same set, whichever of the forms the set was given
in, and also where a name holds the semicolon that the compact form could not hold.
-/
namespace DocumentGateway

open Config

/-- The texts of an array of strings. -/
theorem Config.Setting.texts?_ofJson_strings (texts : List String) :
    (Setting.ofJson (.array (texts.map .string))).texts? = some texts := by
  rw [Setting.ofJson, Setting.texts?]
  induction texts with
  | nil => rfl
  | cons text rest inductionHypothesis =>
    rw [List.map_cons, Setting.ofItems, List.mapM_cons, inductionHypothesis]
    rfl

namespace ImmutableSet

/-- A set is shown as strings in an array, which are read back from their text. -/
theorem ofText?_toText_toJson (set : ImmutableSet) :
    Json.ofText? set.toJson.toText = some set.toJson := by
  have strings : ∀ item ∈ set.toList.map Json.string, ∃ text, item = Json.string text := by
    intro item member
    obtain ⟨text, -, rfl⟩ := List.mem_map.mp member
    exact ⟨text, rfl⟩
  have regular : set.toJson.Regular Json.maxDepth := by
    apply Json.Regular.array
    intro item member
    obtain ⟨text, rfl⟩ := strings item member
    exact .string _ text
  rw [Json.ofText?_toText regular, Json.reread?_eq_self_iff regular]
  intro x inSet
  obtain ⟨item, member, inItem⟩ := Json.mem_realsOfItems.mp inSet
  obtain ⟨text, rfl⟩ := strings item member
  cases inItem

/-- A list that is accepted from a configuration is that of some trimmed entries. -/
theorem lists_of_ofSetting? {setting : Setting} {set : ImmutableSet}
    (accepted : ofSetting? setting = some set) :
    ∃ entries, Trimmed entries ∧ set.Lists entries := by
  unfold ofSetting? at accepted
  split at accepted
  · rename_i entries _
    exact ⟨_, trimmed_ofList entries, ofList_ok_iff.mp (toOption_eq_some_iff.mp accepted)⟩
  · obtain ⟨text, -, read⟩ := Option.bind_eq_some_iff.mp accepted
    exact ⟨_, trimmed_compactEntries text, ofText_ok_iff.mp (toOption_eq_some_iff.mp read)⟩

/-- Wherever the list of an accepted set is written, it is accepted as this set. -/
theorem ofSetting?_of_texts {setting again : Setting} {set : ImmutableSet}
    (accepted : ofSetting? setting = some set) (written : again.texts? = some set.toList) :
    ofSetting? again = some set := by
  obtain ⟨entries, trimmed, lists⟩ := lists_of_ofSetting? accepted
  rw [ofSetting?, written]
  exact toOption_eq_some_iff.mpr (lists.ofList_toList trimmed)

/-- A set is read again from each of its forms: from its compact form, if it was read from one,
and from its list, however that is written down, if it was accepted in either form. Neither the
order of entries nor their number counts, and if no entry is blank or holds a semicolon, they read
in the compact form as they do in a list. A list is accepted exactly if each of its entries names
a collection, and the set holds what they name. -/
theorem reread_from_every_form :
    (∀ text set, ofText text = .ok set → ofText set.toText = .ok set) ∧
      (∀ setting set, ofSetting? setting = some set →
        (∀ again : Setting, again.texts? = some set.toList → ofSetting? again = some set) ∧
          ∃ shown, Json.ofText? set.toJson.toText = some shown ∧
            ofSetting? (Setting.ofJson shown) = some set) ∧
      (∀ entries others : List String, (∀ entry, entry ∈ others ↔ entry ∈ entries) →
        (ofList others).toOption = (ofList entries).toOption ∧
          ((∀ entry ∈ entries, ';' ∉ entry.toList ∧ Text.isBlankText entry = false) →
            ofText (Text.join ";" entries) = ofList entries ∧
              (ofText (Text.join ";" others)).toOption = (ofList entries).toOption)) ∧
      ∀ entries set, ofList entries = .ok set ↔
        set.Lists (entries.map fun entry => Text.trim entry.toList) := by
  refine ⟨?_, ?_, ?_, ?_⟩
  · intro text set read
    exact ofText_toText read
  · intro setting set accepted
    constructor
    · intro again written
      exact ofSetting?_of_texts accepted written
    · refine ⟨set.toJson, ofText?_toText_toJson set, ?_⟩
      exact ofSetting?_of_texts accepted (Setting.texts?_ofJson_strings set.toList)
  · intro entries others same
    constructor
    · exact toOption_ofList_congr same
    · intro each
      have eachOther : ∀ entry ∈ others, ';' ∉ entry.toList ∧ Text.isBlankText entry = false :=
        fun entry member => each entry ((same entry).mp member)
      rw [ofText_join each, ofText_join eachOther]
      exact ⟨rfl, toOption_ofList_congr same⟩
  · intro entries set
    exact ofList_ok_iff

/-- A set given in the compact form, and one in a list with a name that holds a semicolon. -/
theorem reread_from_every_form_with_semicolon :
    let compact : ImmutableSet := ⟨[⟨"a b", "one"⟩, ⟨"b", "two"⟩]⟩
    let listed : ImmutableSet := ⟨[⟨"b", "two"⟩, ⟨"x;y", "z"⟩]⟩
    let setting := Setting.ofJson (.array [.string "x;y/z", .string " b/two"])
    ofText "b/two; a b/one;;b/two" = .ok compact ∧ ofText compact.toText = .ok compact ∧
      ofSetting? setting = some listed ∧
      (∃ shown, Json.ofText? listed.toJson.toText = some shown ∧
        ofSetting? (Setting.ofJson shown) = some listed) ∧
      (ofText (Text.join ";" ["a b/one ", "b/two", "a b/one "])).toOption = some compact := by
  intro compact listed setting
  obtain ⟨fromText, fromSetting, fromOthers, -⟩ := reread_from_every_form
  have read : ofText "b/two; a b/one;;b/two" = .ok compact := by rfl
  have accepted : ofSetting? setting = some listed := by rfl
  have inList : ofList ["b/two", "a b/one "] = .ok compact := by rfl
  have reordered := (fromOthers ["b/two", "a b/one "] ["a b/one ", "b/two", "a b/one "]
    (by simp [or_comm])).2 (by decide)
  refine ⟨read, fromText _ _ read, accepted, (fromSetting _ _ accepted).2, ?_⟩
  rw [reordered.2, inList]
  rfl

end ImmutableSet

end DocumentGateway

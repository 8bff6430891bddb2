import DocumentGateway.Config.Sections
import DocumentGateway.Proofs.Except
import DocumentGateway.Proofs.Json.RoundTrip
import DocumentGateway.Proofs.Text.Blank
import DocumentGateway.Proofs.Text.Cut
import Mathlib.Data.List.Sort

/-!
# Written forms of immutable sets

A set of collections is kept in increasing order, so it is determined by its members. Whatever
was read into it comes back when it is written, as a list or in the compact form, and read
again: the blanks around an entry are gone once and for all, and the names hold no slash. The
compact form of some entries reads as the list of them does, if no entry is blank or holds a
semicolon. What a list reads as depends neither on the order of its entries nor on how often
one of them is there.
-/
namespace DocumentGateway

/-! ## The order of collections -/

namespace CollectionName

/-- Collections are ordered by their databases, and within one database by their names. -/
theorem before_iff {left right : CollectionName} :
    left.before right = true ↔ left.database < right.database ∨
      left.database = right.database ∧ left.collection < right.collection := by
  simp [before]

/-- No collection comes before itself. -/
theorem before_irrefl (name : CollectionName) : ¬name.before name = true := by
  rw [before_iff]
  rintro (smaller | ⟨-, smaller⟩)
  · exact String.lt_irrefl _ smaller
  · exact String.lt_irrefl _ smaller

/-- What comes before something that comes before a third comes before the third. -/
theorem before_trans {first second third : CollectionName} (left : first.before second = true)
    (right : second.before third = true) : first.before third = true := by
  rw [before_iff] at left right ⊢
  rcases left with database | ⟨sameDatabase, collection⟩
  · rcases right with later | ⟨same, -⟩
    · exact .inl (String.lt_trans database later)
    · exact .inl (same ▸ database)
  · rw [sameDatabase]
    exact right.imp_right fun ⟨same, later⟩ => ⟨same, String.lt_trans collection later⟩

/-- Of two different collections one comes before the other. -/
theorem before_of_not_before {left right : CollectionName} (different : left ≠ right)
    (notBefore : ¬left.before right = true) : right.before left = true := by
  rw [before_iff] at notBefore ⊢
  obtain ⟨databaseAtLeast, collectionAtLeast⟩ := not_or.mp notBefore
  by_cases same : left.database = right.database
  · right
    refine ⟨same.symm, ?_⟩
    by_contra collectionAtMost
    have sameCollection : left.collection = right.collection :=
      String.le_antisymm collectionAtMost fun smaller => collectionAtLeast ⟨same, smaller⟩
    apply different
    cases left
    cases right
    simp_all
  · left
    by_contra databaseAtMost
    exact same (String.le_antisymm databaseAtMost databaseAtLeast)

end CollectionName

namespace ImmutableSet

/-! ## Sets in increasing order -/

/-- The collections of the set are in increasing order. -/
def Increasing (set : ImmutableSet) : Prop :=
  set.entries.Pairwise fun left right => left.before right = true

/-- A set in increasing order is determined by its members. -/
theorem Increasing.ext {left right : ImmutableSet} (increasingLeft : left.Increasing)
    (increasingRight : right.Increasing)
    (same : ∀ name, name ∈ left.entries ↔ name ∈ right.entries) : left = right := by
  have irreflexive : Std.Irrefl fun left right : CollectionName => left.before right = true :=
    ⟨CollectionName.before_irrefl⟩
  have antisymmetric : Std.Antisymm fun left right : CollectionName => left.before right = true :=
    ⟨fun left _ smaller larger =>
      absurd (CollectionName.before_trans smaller larger) left.before_irrefl⟩
  have entries : left.entries = right.entries := increasingLeft.eq_of_mem_iff increasingRight same
  cases left
  cases right
  exact congrArg ImmutableSet.mk entries

/-- A list with one more collection holds this one and those it held. -/
theorem mem_place {name other : CollectionName} {entries : List CollectionName} :
    other ∈ place name entries ↔ other = name ∨ other ∈ entries := by
  induction entries with
  | nil => simp [place]
  | cons entry rest inductionHypothesis =>
    rw [place]
    split
    · rename_i same
      simp [same]
    · split
      · simp
      · rw [List.mem_cons, inductionHypothesis, List.mem_cons]
        exact or_left_comm

/-- A collection is put where the order wants it. -/
theorem increasing_place (name : CollectionName) {entries : List CollectionName}
    (increasing : entries.Pairwise fun left right => left.before right = true) :
    (place name entries).Pairwise fun left right => left.before right = true := by
  induction entries with
  | nil => exact List.pairwise_singleton _ name
  | cons entry rest inductionHypothesis =>
    obtain ⟨first, increasingRest⟩ := List.pairwise_cons.mp increasing
    rw [place]
    split
    · exact increasing
    · rename_i different
      split
      · rename_i before
        apply List.pairwise_cons.mpr
        constructor
        · rintro other (_ | ⟨_, later⟩)
          · exact before
          · exact CollectionName.before_trans before (first other later)
        · exact increasing
      · rename_i notBefore
        apply List.pairwise_cons.mpr
        constructor
        · intro other member
          rcases mem_place.mp member with rfl | later
          · exact CollectionName.before_of_not_before different notBefore
          · exact first other later
        · exact inductionHypothesis increasingRest

/-! ## Reading entries -/

/-- An entry that names a collection: a database and a collection around the only slash,
neither of them empty. -/
structure Names (entry : List Char) (name : CollectionName) : Prop where
  text : entry = name.database.toList ++ '/' :: name.collection.toList
  databaseNonempty : name.database ≠ ""
  collectionNonempty : name.collection ≠ ""
  databaseSlashFree : '/' ∉ name.database.toList
  collectionSlashFree : '/' ∉ name.collection.toList

/-- The entries that can be read are those that name a collection, and this is read. -/
theorem readEntry_ok_iff {entry : List Char} {name : CollectionName} :
    readEntry entry = .ok name ↔ Names entry name := by
  constructor
  · intro read
    unfold readEntry at read
    split at read
    · rename_i c database d collection cut
      split at read
      · cases read
      · rename_i slashFree
        obtain rfl := Except.ok.inj read
        obtain ⟨whole, first⟩ := Text.cutAt?_eq_some_iff.mp cut
        refine ⟨by simpa using whole, by simp, by simp, ?_, by simpa using slashFree⟩
        -- a slash in the database would be an earlier place to cut at
        intro slash
        rw [String.toList_ofList] at slash
        obtain ⟨front, back, split⟩ := List.append_of_mem slash
        have longer := first front (back ++ '/' :: d :: collection) (by simp [whole, split])
        simp only [split, List.length_append, List.length_cons] at longer
        omega
    · cases read
  · rintro ⟨rfl, databaseNonempty, collectionNonempty, databaseSlashFree, collectionSlashFree⟩
    obtain ⟨c, front, begins⟩ := List.exists_cons_of_ne_nil
      (show name.database.toList ≠ [] by simpa using databaseNonempty)
    obtain ⟨d, back, goesOn⟩ := List.exists_cons_of_ne_nil
      (show name.collection.toList ≠ [] by simpa using collectionNonempty)
    rw [readEntry, Text.cutAt?_singleton_append name.collection.toList databaseSlashFree]
    simp only [begins, goesOn]
    rw [← begins, ← goesOn, if_neg (by simpa using collectionSlashFree), String.ofList_toList,
      String.ofList_toList]

/-- A set that holds exactly the collections that some entries name, each of which names one. -/
structure Lists (set : ImmutableSet) (entries : List (List Char)) : Prop where
  increasing : set.Increasing
  each : ∀ entry ∈ entries, ∃ name, Names entry name
  mem_iff : ∀ name, name ∈ set.entries ↔ ∃ entry ∈ entries, Names entry name

/-- Reading entries adds the collections that they name. -/
theorem ofEntries_adds {entries : List (List Char)} {set result : ImmutableSet}
    (increasing : set.Increasing) (read : ofEntries entries set = .ok result) :
    result.Increasing ∧ (∀ entry ∈ entries, ∃ name, Names entry name) ∧
      ∀ name, name ∈ result.entries ↔
        name ∈ set.entries ∨ ∃ entry ∈ entries, Names entry name := by
  induction entries generalizing set with
  | nil =>
    obtain rfl := Except.ok.inj read
    exact ⟨increasing, List.forall_mem_nil _, by simp⟩
  | cons entry rest inductionHypothesis =>
    obtain ⟨name, readHere, readRest⟩ := bind_eq_ok_iff.mp read
    have named : Names entry name := readEntry_ok_iff.mp readHere
    obtain ⟨increasingResult, each, members⟩ :=
      inductionHypothesis (increasing_place name increasing) readRest
    refine ⟨increasingResult, List.forall_mem_cons.mpr ⟨⟨name, named⟩, each⟩, ?_⟩
    intro other
    have here : Names entry other ↔ other = name := by
      rw [← readEntry_ok_iff, readHere, Except.ok.injEq, eq_comm]
    rw [members, List.exists_mem_cons_iff, here, or_left_comm, ← or_assoc]
    exact or_congr_left mem_place

/-- Entries that name a collection each can be read. -/
theorem ofEntries_isOk {entries : List (List Char)}
    (each : ∀ entry ∈ entries, ∃ name, Names entry name) (set : ImmutableSet) :
    ∃ result, ofEntries entries set = .ok result := by
  induction entries generalizing set with
  | nil => exact ⟨set, rfl⟩
  | cons entry rest inductionHypothesis =>
    obtain ⟨⟨name, named⟩, eachLater⟩ := List.forall_mem_cons.mp each
    obtain ⟨result, readRest⟩ := inductionHypothesis eachLater (set.insert name)
    exact ⟨result, bind_eq_ok_iff.mpr ⟨name, readEntry_ok_iff.mpr named, readRest⟩⟩

/-- Entries are read as the set that lists the collections they name, if each of them names one,
and are refused otherwise. -/
theorem ofEntries_ok_iff {entries : List (List Char)} {set : ImmutableSet} :
    ofEntries entries empty = .ok set ↔ set.Lists entries := by
  have listed : ∀ {result}, ofEntries entries empty = .ok result → result.Lists entries := by
    intro result read
    obtain ⟨increasing, each, members⟩ := ofEntries_adds List.Pairwise.nil read
    exact ⟨increasing, each, by simpa [empty] using members⟩
  constructor
  · exact listed
  · intro lists
    obtain ⟨result, read⟩ := ofEntries_isOk lists.each empty
    have same : result = set := (listed read).increasing.ext lists.increasing fun name => by
      rw [(listed read).mem_iff, lists.mem_iff]
    rw [read, same]

/-- A text in the compact form is read as the set of the collections that its entries name. -/
theorem ofText_ok_iff {text : String} {set : ImmutableSet} :
    ofText text = .ok set ↔ set.Lists (compactEntries text) :=
  ofEntries_ok_iff

/-- A list is read as the set of the collections that its trimmed entries name. -/
theorem ofList_ok_iff {entries : List String} {set : ImmutableSet} :
    ofList entries = .ok set ↔ set.Lists (entries.map fun entry => Text.trim entry.toList) :=
  ofEntries_ok_iff

/-- Neither the order of entries nor their number counts. -/
theorem Lists.congr {set : ImmutableSet} {left right : List (List Char)} (lists : set.Lists left)
    (same : ∀ entry, entry ∈ left ↔ entry ∈ right) : set.Lists right := by
  refine ⟨lists.increasing, ?_, ?_⟩
  · intro entry member
    exact lists.each entry ((same entry).mpr member)
  · intro name
    simp only [lists.mem_iff, same]

/-- Lists of the same entries read as the same set, or neither of them can be read. -/
theorem toOption_ofList_congr {left right : List String}
    (same : ∀ entry, entry ∈ left ↔ entry ∈ right) :
    (ofList left).toOption = (ofList right).toOption := by
  have trimmedSame : ∀ entry, entry ∈ left.map (fun entry => Text.trim entry.toList) ↔
      entry ∈ right.map (fun entry => Text.trim entry.toList) := by
    simp [same]
  apply Option.ext
  intro set
  rw [toOption_eq_some_iff, toOption_eq_some_iff, ofList_ok_iff, ofList_ok_iff]
  constructor
  · intro lists
    exact lists.congr trimmedSame
  · intro lists
    exact lists.congr fun entry => (trimmedSame entry).symm

/-! ## Writing a set and reading it again -/

/-- An entry names one collection only. -/
theorem Names.unique {entry : List Char} {name other : CollectionName} (named : Names entry name)
    (namedOther : Names entry other) : name = other := by
  have read := readEntry_ok_iff.mpr named
  rw [readEntry_ok_iff.mpr namedOther] at read
  exact (Except.ok.inj read).symm

/-- A collection is written as the entries that name it. -/
theorem Names.written {entry : List Char} {name : CollectionName} (named : Names entry name) :
    (name.database ++ "/" ++ name.collection).toList = entry := by
  simp [named.text]

/-- Entries of which the blanks at both ends are gone. -/
def Trimmed (entries : List (List Char)) : Prop :=
  ∀ entry ∈ entries, Text.trim entry = entry

/-- The entries of a list are trimmed before they are read. -/
theorem trimmed_ofList (entries : List String) :
    Trimmed (entries.map fun entry => Text.trim entry.toList) := by
  intro entry member
  obtain ⟨given, -, rfl⟩ := List.mem_map.mp member
  exact Text.trim_trim given.toList

/-- The entries of the compact form are trimmed before they are read. -/
theorem trimmed_compactEntries (text : String) : Trimmed (compactEntries text) := by
  intro entry member
  obtain ⟨piece, -, rfl⟩ := List.mem_map.mp (List.mem_filter.mp member).1
  exact Text.trim_trim piece

section Reread

variable {set : ImmutableSet} {entries : List (List Char)} (lists : set.Lists entries)

include lists in
/-- Each written entry of a set is one of those from which it was read. -/
theorem Lists.written_mem {written : String} (member : written ∈ set.toList) :
    written.toList ∈ entries := by
  obtain ⟨name, inSet, rfl⟩ := List.mem_map.mp member
  obtain ⟨entry, given, named⟩ := (lists.mem_iff name).mp inSet
  rw [named.written]
  exact given

include lists in
/-- A set that was read from trimmed entries is read again from the list of its entries. -/
theorem Lists.ofList_toList (trimmed : Trimmed entries) : ofList set.toList = .ok set := by
  have names : ∀ name ∈ set.entries,
      Names (Text.trim (name.database ++ "/" ++ name.collection).toList) name := by
    intro name inSet
    obtain ⟨entry, given, named⟩ := (lists.mem_iff name).mp inSet
    rw [named.written, trimmed entry given]
    exact named
  rw [ofList_ok_iff, toList, List.map_map]
  refine ⟨lists.increasing, ?_, ?_⟩
  · intro entry member
    obtain ⟨name, inSet, rfl⟩ := List.mem_map.mp member
    exact ⟨name, names name inSet⟩
  · intro name
    constructor
    · intro inSet
      exact ⟨_, List.mem_map_of_mem inSet, names name inSet⟩
    · rintro ⟨entry, member, named⟩
      obtain ⟨other, inSet, rfl⟩ := List.mem_map.mp member
      rw [named.unique (names other inSet)]
      exact inSet

end Reread

/-- The entries of the compact form are those that it was put together from. -/
theorem compactEntries_join {entries : List String}
    (each : ∀ entry ∈ entries, ';' ∉ entry.toList ∧ Text.isBlankText entry = false) :
    compactEntries (Text.join ";" entries) =
      entries.map fun entry => Text.trim entry.toList := by
  have visible : ∀ entry ∈ entries, Text.trim entry.toList ≠ [] := by
    intro entry member nothing
    have blank := List.all_eq_true.mpr (Text.trim_eq_nil_iff.mp nothing)
    rw [← Text.isBlankText, (each entry member).2] at blank
    cases blank
  have kept : ∀ pieces : List (List Char), pieces = entries.map String.toList →
      (pieces.map Text.trim).filter (!·.isEmpty) =
        entries.map fun entry => Text.trim entry.toList := by
    rintro _ rfl
    rw [List.map_map, List.filter_eq_self.mpr]
    · rfl
    · intro entry member
      obtain ⟨given, inEntries, rfl⟩ := List.mem_map.mp member
      simpa using visible given inEntries
  cases entries with
  | nil => rfl
  | cons first rest =>
    apply kept
    have joined : (Text.join ";" (first :: rest)).toList =
        [';'].intercalate ((first :: rest).map String.toList) := by
      simp [Text.join, String.toList_intercalate]
    rw [joined]
    apply Text.pieces_intercalate (by simp)
    intro piece member
    obtain ⟨given, inEntries, rfl⟩ := List.mem_map.mp member
    exact (each given inEntries).1

/-- The compact form of some entries reads as the list of them does. -/
theorem ofText_join {entries : List String}
    (each : ∀ entry ∈ entries, ';' ∉ entry.toList ∧ Text.isBlankText entry = false) :
    ofText (Text.join ";" entries) = ofList entries := by
  rw [ofText, compactEntries_join each, ofList]

/-- A set that was read from the compact form is read again from its own compact form. Its entries
are pieces of the first one, so they hold no semicolon, and they hold a slash, so they are not
blank. -/
theorem ofText_toText {text : String} {set : ImmutableSet} (read : ofText text = .ok set) :
    ofText set.toText = .ok set := by
  have lists : set.Lists (compactEntries text) := ofText_ok_iff.mp read
  rw [toText, ofText_join]
  · exact lists.ofList_toList (trimmed_compactEntries text)
  · intro written member
    have given := lists.written_mem member
    obtain ⟨inPieces, nonempty⟩ := List.mem_filter.mp given
    constructor
    · obtain ⟨piece, inText, trimmedPiece⟩ := List.mem_map.mp inPieces
      intro semicolon
      rw [← trimmedPiece] at semicolon
      exact Text.separator_notMem_piece inText (Text.mem_of_mem_trim semicolon)
    · rw [Bool.eq_false_iff]
      intro blank
      have nothing := Text.trim_eq_nil_iff.mpr (List.all_eq_true.mp blank)
      rw [trimmed_compactEntries text _ given] at nothing
      simp [nothing] at nonempty

end ImmutableSet

end DocumentGateway
